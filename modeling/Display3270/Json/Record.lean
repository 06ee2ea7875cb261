import Display3270.Json.Reader

namespace Display3270

structure Slots where
  origin : Origin
  find : String → Option Draft
  absent : String → Cause

structure Field where
  name : String
  check : Origin → Draft → Except Cause Unit

/-- A value of named fields. The fields that are there are checked in the order in which they
stand; then the value is built from them, and the first field that is missing counts. -/
structure Record (α : Type) where
  fields : List Field
  build : Slots → Except Cause α

namespace Record

variable {α β : Type}

def field (name : String) (r : Reader α) (absent : Slots → Except Cause α) : Record α :=
  ⟨[⟨name, fun o d => (r o d).map fun _ => ()⟩], fun s =>
    match s.find name with
    | some d => r s.origin d
    | none => absent s⟩

def required (name : String) (r : Reader α) : Record α :=
  field name r fun s => .error (s.absent name)

def optional (name : String) (r : Reader α) : Record (Option α) :=
  field name r.option fun _ => .ok none

def defaulted (name : String) (r : Reader α) (default : α) : Record α :=
  field name r fun _ => .ok default

instance : Functor Record where
  map f r := ⟨r.fields, fun s => (r.build s).map f⟩

instance : Seq Record where
  seq f x := ⟨f.fields ++ (x ()).fields, fun s => do
    let g ← f.build s
    let a ← (x ()).build s
    return g a⟩

instance : Pure Record where
  pure a := ⟨[], fun _ => .ok a⟩

def field? (r : Record α) (name : String) : Option Field :=
  r.fields.find? fun f => f.name == name

/-- Checks the members of an object one after the other. Those of other names are passed over; in a
text no field may stand twice. -/
def checkMembers (r : Record α) (o : Origin) (seen : List String) :
    List (Option String × Draft) → Except Cause Unit
  | [] => .ok ()
  | (none, _) :: _ => .error .illFormed
  | (some k, d) :: ms =>
    match r.field? k with
    | none => do
      d.skip
      checkMembers r o seen ms
    | some f => do
      if seen.contains k then throw (.duplicateField k)
      f.check o d
      checkMembers r o (k :: seen) ms

def findMember (ms : List (Option String × Draft)) (name : String) : Option Draft :=
  ms.lookup (some name)

def readObject (r : Record α) (o : Origin) (ms : List (Option String × Draft))
    (f : Option Fault) : Except Cause α := do
  checkMembers r o [] ms
  Draft.close f
  r.build ⟨o, findMember ms, .missingField⟩

def checkItems (o : Origin) (f : Option Fault) : List Field → List Draft → Except Cause Unit
  | [], [] => Draft.close f
  | [], _ :: _ => .error (if o = .text then .illFormed else .wrongLength)
  | _ :: _, [] => Draft.close f
  | x :: xs, d :: ds => do
    x.check o d
    checkItems o f xs ds

def findItem (names : List String) (ds : List Draft) (name : String) : Option Draft :=
  (names.zip ds).lookup name

def readArray (r : Record α) (o : Origin) (ds : List Draft) (f : Option Fault) :
    Except Cause α := do
  checkItems o f r.fields ds
  r.build ⟨o, findItem (r.fields.map Field.name) ds, fun _ => .wrongLength⟩

def objectReader (r : Record α) : Reader α
  | o, .obj ms f => r.readObject o ms f
  | _, d => .error (Reader.mismatch d)

def reader (r : Record α) : Reader α
  | o, .obj ms f => r.readObject o ms f
  | o, .arr ds f => r.readArray o ds f
  | _, d => .error (Reader.mismatch d)

end Record

end Display3270
