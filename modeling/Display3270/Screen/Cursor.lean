import Display3270.Json.Record

namespace Display3270

/-- The cursor of the host; rows and columns count from one. -/
inductive Cursor
  | disabled
  | enabled (row column : UInt16)
  deriving DecidableEq

namespace Cursor

instance : Inhabited Cursor := ⟨.enabled 1 1⟩

def isEnabled : Cursor → Bool
  | .disabled => false
  | .enabled _ _ => true

def cell? (rows cols : Nat) : Cursor → Option (Nat × Nat)
  | .disabled => none
  | .enabled row column =>
    if 1 ≤ row.toNat ∧ row.toNat ≤ rows ∧ 1 ≤ column.toNat ∧ column.toNat ≤ cols then
      some (row.toNat - 1, column.toNat - 1)
    else none

def padded (n : Nat) : List Char :=
  let ds := decimal n
  List.replicate (3 - ds.length) '0' ++ ds

def position? : Cursor → Option String
  | .disabled => none
  | .enabled row column => some (String.ofList (padded column.toNat ++ '/' :: padded row.toNat))

def ofParts (enabled : Bool) (row column : Option UInt16) : Except Cause Cursor :=
  if enabled then
    match row, column with
    | some row, some column => .ok (.enabled row column)
    | _, _ => .error .cursorWithoutPlace
  else .ok .disabled

def record : Record (Except Cause Cursor) :=
  ofParts <$> .required "enabled" .bool <*> .optional "row" .uint16 <*> .optional "column" .uint16

def reader : Reader Cursor := fun o d => do
  let parts ← record.reader o d
  parts

def json : Cursor → Json
  | .disabled => .obj [("enabled", .bool false)]
  | .enabled row column =>
    .obj [("enabled", .bool true), ("row", .natural row.toNat), ("column", .natural column.toNat)]

end Cursor

end Display3270
