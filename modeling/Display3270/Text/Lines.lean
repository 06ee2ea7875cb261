namespace Display3270

/-- The characters of a file, with `none` for a byte that belongs to no character. -/
abbrev Content := List (Option Char)

namespace Content

def ofString (s : String) : Content :=
  s.toList.map some

def continuation (code : Nat) : List UInt8 → Option Nat
  | [] => some code
  | b :: bs => if b.toNat / 64 = 2 then continuation (code * 64 + b.toNat % 64) bs else none

def scalar? (size code : Nat) : Option Char :=
  let c := Char.ofNat code
  if c.toNat = code ∧ c.utf8Size = size then some c else none

def firstChar? : List UInt8 → Option Char
  | [] => none
  | b :: bs =>
    let n := b.toNat
    if n < 0x80 then some (Char.ofNat n)
    else
      let (size, code) :=
        if n / 32 = 6 then (2, n % 32) else if n / 16 = 14 then (3, n % 16)
        else if n / 8 = 30 then (4, n % 8) else (0, 0)
      if size = 0 ∨ bs.length < size - 1 then none
      else (continuation code (bs.take (size - 1))).bind (scalar? size)

def decodeFrom : Nat → List UInt8 → Content
  | _, [] => []
  | skip + 1, _ :: bs => decodeFrom skip bs
  | 0, b :: bs =>
    match firstChar? (b :: bs) with
    | none => none :: decodeFrom 0 bs
    | some c => some c :: decodeFrom (c.utf8Size - 1) bs

def ofBytes (bs : List UInt8) : Content :=
  decodeFrom 0 bs

def text? (c : Content) : Option String :=
  (c.mapM id).map String.ofList

def dropReturn (line : Content) : Content :=
  if line.getLast? = some (some '\r') then line.dropLast else line

def linesFrom (line : Content) : Content → List Content
  | [] => if line.isEmpty then [] else [line.reverse]
  | c :: cs =>
    if c = some '\n' then dropReturn line.reverse :: linesFrom [] cs
    else linesFrom (c :: line) cs

def lines (c : Content) : List Content :=
  linesFrom [] c

end Content

end Display3270
