import Display3270.Json.Scan

namespace Display3270

/-- What a typed value is read from: directly from a text, from a value, or from members of a value
that were set aside before their type was known. -/
inductive Origin
  | text
  | value
  | buffer
  deriving DecidableEq

abbrev Reader (α : Type) := Origin → Draft → Except Cause α

namespace Reader

variable {α β : Type}

def mismatch : Draft → Cause
  | .fault f => f.read
  | _ => .wrongType

def map (f : α → β) (r : Reader α) : Reader β :=
  fun o d => (r o d).map f

def string : Reader String
  | _, .str s => .ok s
  | _, d => .error (mismatch d)

def bool : Reader Bool
  | _, .bool b => .ok b
  | _, d => .error (mismatch d)

def natural (bits : Nat) : Reader Nat
  | _, .num (.int n) =>
    if 0 ≤ n ∧ n.toNat < Nat.pow 2 bits then .ok n.toNat else .error .wrongValue
  | _, d => .error (mismatch d)

def uint8 : Reader UInt8 := map UInt8.ofNat (natural 8)

def uint16 : Reader UInt16 := map UInt16.ofNat (natural 16)

def uint64 : Reader UInt64 := map UInt64.ofNat (natural 64)

def double : Reader Double
  | _, .num (.int n) => .ok (Binary.ofInt n)
  | _, .num (.double x) => .ok x
  | _, .num (.single x) => .ok x.convert
  | _, d => .error (mismatch d)

def single : Reader Single
  | _, .num (.int n) => .ok (Binary.ofInt n)
  | _, .num (.double x) => .ok x.convert
  | _, .num (.single x) => .ok x
  | _, d => .error (mismatch d)

def json : Reader Json :=
  fun _ d => d.value none

def option (r : Reader α) : Reader (Option α)
  | _, .null => .ok none
  | o, d => (r o d).map some

def items (r : Reader α) (o : Origin) : List Draft → Except Cause (List α)
  | [] => .ok []
  | d :: ds => do
    let x ← r o d
    let xs ← items r o ds
    return x :: xs

def list (r : Reader α) : Reader (List α)
  | o, .arr ds f => do
    let xs ← items r o ds
    Draft.close f
    return xs
  | _, d => .error (mismatch d)

def entries (r : Reader α) (o : Origin) :
    List (Option String × Draft) → Except Cause (List (String × α))
  | [] => .ok []
  | (none, _) :: _ => .error .illFormed
  | (some k, d) :: ms => do
    let x ← r o d
    let xs ← entries r o ms
    return (k, x) :: xs

def members (r : Reader α) : Reader (List (String × α))
  | o, .obj ms f => do
    let xs ← entries r o ms
    Draft.close f
    return xs
  | _, d => .error (mismatch d)

inductive Variant (α : Type)
  | plain (a : α)
  | carrying (r : Reader α)

def isUnit (o : Origin) : Draft → Bool
  | .null => true
  | .obj [] none => o == .buffer
  | _ => false

def variantBody (v : Variant α) (o : Origin) (d : Draft) : Except Cause α :=
  match v with
  | .plain a => if isUnit o d then .ok a else .error (mismatch d)
  | .carrying r => r o d

def choice (find : String → Option (Variant α)) : Reader α
  | _, .str s =>
    match find s with
    | some (.plain a) => .ok a
    | some (.carrying _) => .error .wrongType
    | none => .error .unknownVariant
  | .text, .obj [] none => .error .illFormed
  | .text, .obj [] (some f) => .error f.variant
  | .text, .obj ((none, _) :: _) _ => .error .illFormed
  | .text, .obj ((some k, d) :: ms) f =>
    match find k with
    | none => .error .unknownVariant
    | some v => do
      let a ← variantBody v .text d
      if !ms.isEmpty then throw .illFormed
      match f with
      | none => return a
      | some f => throw f.variant
  | o, .obj [(some k, d)] _ =>
    match find k with
    | none => .error .unknownVariant
    | some v => variantBody v o d
  | .text, .fault f => .error f.variant
  | .text, _ => .error .illFormed
  | _, .obj _ _ => .error .wrongValue
  | _, _ => .error .wrongType

def named (table : List (String × α)) (other : Option α) : Reader α :=
  choice fun s => ((table.lookup s).or other).map .plain

def ofText (r : Reader α) (text : String) : Except Cause α := do
  let (draft, trailing) := Draft.scan text.toList
  let a ← r .text draft
  if trailing then throw .illFormed
  return a

def ofValue (r : Reader α) (j : Json) : Except Cause α :=
  r .value (Draft.ofJson j)

end Reader

end Display3270
