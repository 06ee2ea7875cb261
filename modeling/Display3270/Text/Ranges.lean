namespace Display3270

/-- Ranges of code points in ascending order, each from its first to its last, with what they
have in common. -/
abbrev Ranges (α : Type) := Array (Nat × Nat × α)

namespace Ranges

variable {α : Type}

def search (ranges : Ranges α) (code : Nat) (low high : Nat) : Nat → Option α
  | 0 => none
  | fuel + 1 =>
    if low < high then
      let middle := (low + high) / 2
      match ranges[middle]? with
      | none => none
      | some (first, last, x) =>
        if code < first then search ranges code low middle fuel
        else if last < code then search ranges code (middle + 1) high fuel
        else some x
    else none

def lookup? (ranges : Ranges α) (code : Nat) : Option α :=
  ranges.search code 0 ranges.size (ranges.size.log2 + 1)

end Ranges

end Display3270
