import Display3270.Text.Blank

namespace Display3270

structure Rendition where
  bits : Nat
  deriving DecidableEq

def cut (separator : Char) : List Char → List (List Char)
  | [] => [[]]
  | c :: cs =>
    if c = separator then [] :: cut separator cs
    else match cut separator cs with
      | [] => [[c]]
      | part :: parts => (c :: part) :: parts

namespace Rendition

def empty : Rendition := ⟨0⟩

def flags : List (Rendition × String) :=
  [(⟨0x001⟩, "underline"), (⟨0x002⟩, "blink"), (⟨0x004⟩, "highlight"), (⟨0x008⟩, "selectable"),
    (⟨0x010⟩, "reverse"), (⟨0x020⟩, "wide"), (⟨0x040⟩, "order"), (⟨0x080⟩, "private-use"),
    (⟨0x100⟩, "no-copy"), (⟨0x200⟩, "wrap")]

def union (a b : Rendition) : Rendition := ⟨a.bits ||| b.bits⟩

def contains (a b : Rendition) : Bool := a.bits &&& b.bits == b.bits

def ofName? (name : String) : Option Rendition :=
  (flags.find? fun f => f.2 == name).map (·.1)

def ofPart (part : List Char) : Rendition :=
  (ofName? (String.ofList (trim part))).getD empty

def ofSpec (spec : String) : Rendition :=
  if spec = "none" ∨ spec = "default" then empty
  else (cut ',' spec.toList).foldl (fun acc part => acc.union (ofPart part)) empty

def names (r : Rendition) : List String :=
  (flags.filter fun f => r.contains f.1).map (·.2)

def text (r : Rendition) : String :=
  if r = empty then "none" else ",".intercalate r.names

end Rendition

end Display3270
