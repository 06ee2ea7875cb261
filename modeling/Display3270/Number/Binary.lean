namespace Display3270

structure Width where
  exponent : Nat
  fraction : Nat
  deriving DecidableEq

def Width.double : Width := ⟨11, 52⟩

def Width.single : Width := ⟨8, 23⟩

def Width.span (w : Width) : Nat := Nat.pow 2 w.fraction

def Width.least (w : Width) : Int :=
  2 - (Nat.pow 2 (w.exponent - 1) : Nat) - w.fraction

def Width.infinity (w : Width) : Nat :=
  (Nat.pow 2 w.exponent - 1) * w.span

/-- A floating-point value: not a number, or a sign with the exponent and fraction bits read as
one number, which orders the magnitudes as their values are ordered. -/
inductive Binary (w : Width)
  | nan
  | signed (negative : Bool) (magnitude : Nat)
  deriving DecidableEq

abbrev Double := Binary .double

abbrev Single := Binary .single

namespace Binary

variable {w v : Width}

def zero : Binary w := .signed false 0

def scaled (w : Width) (magnitude : Nat) : Nat × Int :=
  let e := magnitude / w.span
  if e = 0 then (magnitude, w.least)
  else (magnitude % w.span + w.span, w.least + (e - 1 : Nat))

def nearest (num den : Nat) : Nat :=
  let q := num / den
  let r := num % den
  if 2 * r < den ∨ (2 * r = den ∧ q % 2 = 0) then q else q + 1

def shift (base num den : Nat) (e : Int) : Nat × Nat :=
  if 0 ≤ e then (num * Nat.pow base e.toNat, den) else (num, den * Nat.pow base (-e).toNat)

def binaryOrder (num den : Nat) : Int :=
  let e : Int := (num.log2 : Int) - den.log2
  let (n, d) := shift 2 num den (-e)
  if d ≤ n then e else e - 1

def roundMagnitude (w : Width) (num den : Nat) : Nat :=
  if num = 0 then 0
  else
    let q := max w.least (binaryOrder num den - w.fraction)
    let (n, d) := shift 2 num den (-q)
    min ((q - w.least).toNat * w.span + nearest n d) w.infinity

def ofRatio (negative : Bool) (num den : Nat) : Binary w :=
  .signed negative (roundMagnitude w num den)

def ofInt (n : Int) : Binary w :=
  ofRatio (n < 0) n.natAbs 1

def ofScaled (negative : Bool) (m : Nat) (e : Int) : Binary w :=
  let (n, d) := shift 2 m 1 e
  ofRatio negative n d

def isFinite : Binary w → Bool
  | .nan => false
  | .signed _ m => m < w.infinity

def neg : Binary w → Binary w
  | .nan => .nan
  | .signed s m => .signed (!s) m

def convert : Binary w → Binary v
  | .nan => .nan
  | .signed s m =>
    if m = w.infinity then .signed s v.infinity
    else ofScaled s (scaled w m).1 (scaled w m).2

def mul : Binary w → Binary w → Binary w
  | .signed s m, .signed t n =>
    if m = w.infinity ∨ n = w.infinity then
      if m = 0 ∨ n = 0 then .nan else .signed (s ^^ t) w.infinity
    else
      ofScaled (s ^^ t) ((scaled w m).1 * (scaled w n).1) ((scaled w m).2 + (scaled w n).2)
  | _, _ => .nan

def div : Binary w → Binary w → Binary w
  | .signed s m, .signed t n =>
    if m = w.infinity then if n = w.infinity then .nan else .signed (s ^^ t) w.infinity
    else if n = w.infinity then .signed (s ^^ t) 0
    else if n = 0 then if m = 0 then .nan else .signed (s ^^ t) w.infinity
    else
      let (num, den) := shift 2 (scaled w m).1 (scaled w n).1 ((scaled w m).2 - (scaled w n).2)
      ofRatio (s ^^ t) num den
  | _, _ => .nan

def le : Binary w → Binary w → Bool
  | .signed s m, .signed t n =>
    if m = 0 ∧ n = 0 then true
    else match s, t with
      | false, false => m ≤ n
      | true, true => n ≤ m
      | true, false => true
      | false, true => false
  | _, _ => false

instance : Mul (Binary w) := ⟨mul⟩
instance : Div (Binary w) := ⟨div⟩
instance : Neg (Binary w) := ⟨neg⟩
instance : LE (Binary w) := ⟨fun x y => le x y = true⟩
instance (x y : Binary w) : Decidable (x ≤ y) := inferInstanceAs (Decidable (_ = true))
instance : LT (Binary w) := ⟨fun x y => x ≤ y ∧ ¬ y ≤ x⟩
instance (x y : Binary w) : Decidable (x < y) := inferInstanceAs (Decidable (_ ∧ _))
instance (n : Nat) : OfNat (Binary w) n := ⟨ofInt n⟩

def bits? : Binary w → Option Nat
  | .nan => none
  | .signed s m => some ((if s then Nat.pow 2 w.exponent * w.span else 0) + m)

end Binary

end Display3270
