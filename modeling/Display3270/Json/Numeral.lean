import Display3270.Json.Basic

namespace Display3270

/-- The parts of a written number, each with the last digit first. -/
structure Numeral where
  negative : Bool
  whole : List Char
  fraction : List Char
  down : Bool
  exponent : List Char
  deriving DecidableEq

namespace Numeral

def significand (n : Nat) : List Char → Nat × List Char
  | [] => (n, [])
  | c :: cs =>
    let m := 10 * n + (c.toNat - '0'.toNat)
    if m < Nat.pow 2 64 then significand m cs else (n, c :: cs)

def powerOfTen (e : Nat) : Double :=
  Binary.ofRatio false (Nat.pow 10 e) 1

/-- The value of `n * 10 ^ e` by one multiplication or division of rounded values, by two divisions
where the power is out of range; none if the result is. -/
def scale? (n : Nat) (e : Int) : Option Double :=
  let x : Double := Binary.ofInt n
  let k := e.natAbs
  if 0 ≤ e then
    if k ≤ 308 then
      let y := x * powerOfTen k
      if y.isFinite then some y else none
    else if n = 0 then some x else none
  else if k ≤ 308 then some (x / powerOfTen k)
  else if k ≤ 616 then some (x / powerOfTen 308 / powerOfTen (k - 308))
  else some Binary.zero

/-- A number without fraction and exponent is an integer if it fits into 64 bits; zero with a sign
is not. None for a number that is too large. -/
def number? (n : Numeral) : Option Number :=
  let (s, rest) := significand 0 n.whole.reverse
  if n.fraction.isEmpty ∧ n.exponent.isEmpty ∧ rest.isEmpty ∧
      (n.negative = false ∨ (0 < s ∧ s ≤ Nat.pow 2 63)) then
    some (.int (if n.negative then -s else s))
  else
    let (t, unread) := significand s n.fraction.reverse
    let read := n.fraction.length - unread.length
    let e := ofDecimal n.exponent.reverse
    let shift : Int := (rest.length : Int) - read + (if n.down then -(e : Int) else e)
    (scale? t shift).map fun x => .double (if n.negative then -x else x)

end Numeral

end Display3270
