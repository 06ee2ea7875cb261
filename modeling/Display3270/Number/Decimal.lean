import Display3270.Number.Binary

namespace Display3270

def decimal (n : Nat) : List Char :=
  Nat.toDigits 10 n

def ofDecimal (ds : List Char) : Nat :=
  ds.foldl (fun n c => 10 * n + (c.toNat - '0'.toNat)) 0

namespace Binary

variable {w : Width}

def decimalOrder (num den : Nat) : Int :=
  let k : Int := (decimal num).length - (decimal den).length
  let (n, d) := shift 10 num den (-k)
  if d ≤ n then k else k - 1

/-- The point of the grid of multiples of `10 ^ k` that identifies a magnitude, if the grid has
one: the nearer of the two neighbours, of two equally near the even one. -/
def gridPoint (w : Width) (magnitude : Nat) (k : Int) : Option Nat :=
  let (m, q) := scaled w magnitude
  let (n, d) := shift 2 1 1 (q - 2)
  let (n, d) := shift 10 n d (-k)
  let below := if magnitude % w.span = 0 ∧ w.span < magnitude then 1 else 2
  let value := 4 * m * n
  let low := (4 * m - below) * n
  let high := (4 * m + 2) * n
  let inside (c : Nat) : Bool :=
    if m % 2 = 0 then low ≤ c * d && c * d ≤ high else low < c * d && c * d < high
  let c := value / d
  let r := value % d
  let nearer := if 2 * r < d ∨ (2 * r = d ∧ c % 2 = 0) then c else c + 1
  let other := if nearer = c then c + 1 else c
  if inside nearer then some nearer else if inside other then some other else none

def searchDigits (w : Width) (magnitude : Nat) (order : Int) (count : Nat) : Nat → Nat × Int
  | 0 => (0, 0)
  | fuel + 1 =>
    let k := order - count + 1
    match gridPoint w magnitude k with
    | some c => (c, k)
    | none => searchDigits w magnitude order (count + 1) fuel

def shortest (w : Width) (magnitude : Nat) : List Char × Int :=
  let (m, q) := scaled w magnitude
  let (n, d) := shift 2 m 1 q
  let (c, k) := searchDigits w magnitude (decimalOrder n d) 1 (w.fraction + 2)
  let ds := decimal c
  ((ds.reverse.dropWhile (· == '0')).reverse, k + ds.length - 1)

end Binary

structure PlainRange where
  low : Int
  high : Int

def PlainRange.double : PlainRange := ⟨-5, 15⟩

def PlainRange.single : PlainRange := ⟨-5, 14⟩

def PlainRange.layout (range : PlainRange) (ds : List Char) (order : Int) : List Char :=
  if range.low ≤ order ∧ order ≤ range.high then
    if order < 0 then
      ['0', '.'] ++ List.replicate (-order - 1).toNat '0' ++ ds
    else
      let whole := order.toNat + 1
      let tail := ds.drop whole
      ds.take whole ++ List.replicate (whole - ds.length) '0' ++ ['.'] ++
        (if tail.isEmpty then ['0'] else tail)
  else
    let tail := ds.drop 1
    ds.take 1 ++ (if tail.isEmpty then [] else '.' :: tail) ++ ['e'] ++
      [if order < 0 then '-' else '+'] ++ decimal order.natAbs

def Binary.text? {w : Width} (range : PlainRange) : Binary w → Option (List Char)
  | .nan => none
  | .signed negative m =>
    if w.infinity ≤ m then none
    else
      let digits :=
        if m = 0 then ['0', '.', '0']
        else
          let (ds, order) := Binary.shortest w m
          range.layout ds order
      some (if negative then '-' :: digits else digits)

inductive NumberText
  | nan
  | infinity (negative : Bool)
  | finite (negative : Bool) (digits : Nat) (exponent : Int)
  deriving DecidableEq

namespace NumberText

def splitSign : List Char → Bool × List Char
  | '-' :: cs => (true, cs)
  | '+' :: cs => (false, cs)
  | cs => (false, cs)

def ofChars? (cs : List Char) : Option NumberText :=
  let (negative, cs) := splitSign cs
  let word := String.ofList (cs.map Char.toLower)
  if word = "nan" then some .nan
  else if word = "inf" ∨ word = "infinity" then some (.infinity negative)
  else
    let whole := cs.takeWhile Char.isDigit
    let cs := cs.dropWhile Char.isDigit
    let (part, cs) := match cs with
      | '.' :: cs => (cs.takeWhile Char.isDigit, cs.dropWhile Char.isDigit)
      | cs => ([], cs)
    if whole.isEmpty && part.isEmpty then none
    else
      let digits := ofDecimal (whole ++ part)
      match cs with
      | [] => some (.finite negative digits (-part.length))
      | c :: cs =>
        let (down, ds) := splitSign cs
        if (c == 'e' || c == 'E') && !ds.isEmpty && ds.all Char.isDigit then
          let e : Int := if down then -(ofDecimal ds : Int) else ofDecimal ds
          some (.finite negative digits (e - part.length))
        else none

end NumberText

namespace Binary

variable {w : Width}

/-- The value of `digits * 10 ^ e`, rounded once; a power of ten beyond all magnitudes is not
worked out. -/
def ofScientific (negative : Bool) (digits : Nat) (e : Int) : Binary w :=
  let order : Int := e + (decimal digits).length
  if digits = 0 ∨ order < w.least then .signed negative 0
  else if (Nat.pow 2 w.exponent : Nat) < order then .signed negative w.infinity
  else
    let (n, d) := shift 10 digits 1 e
    ofRatio negative n d

def ofNumberText : NumberText → Binary w
  | .nan => .nan
  | .infinity negative => .signed negative w.infinity
  | .finite negative digits e => ofScientific negative digits e

def ofText? (s : String) : Option (Binary w) :=
  (NumberText.ofChars? s.toList).map ofNumberText

end Binary

end Display3270
