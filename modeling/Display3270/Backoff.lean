import Display3270.Number.Binary

namespace Display3270

inductive DelayPolicy
  | backoff
  | constant
  deriving DecidableEq

structure Backoff (α : Type) where
  current : α
  floor : α
  factor : α
  max : α
  policy : DelayPolicy
  deriving DecidableEq

namespace Backoff

variable {α : Type} [LE α] [LT α] [DecidableLE α] [DecidableLT α] [Mul α]
variable [OfNat α 0] [OfNat α 1] [OfNat α 86400]

def atLeast (low x : α) : α := if low ≤ x then x else low

def atMost (high x : α) : α := if x ≤ high then x else high

def clamp (low high x : α) : α := if x < low then low else if high < x then high else x

def create (floor factor max : α) (policy : DelayPolicy) : Backoff α :=
  let low := atMost 86400 (atLeast 0 floor)
  ⟨low, low, factor, atMost 86400 (atLeast low max), policy⟩

def initial : Backoff Double := create 1 (3 / 2) 30 .backoff

def grow (b : Backoff α) : Backoff α :=
  ⟨clamp b.floor b.max (b.current * b.factor), b.floor, b.factor, b.max, b.policy⟩

def reset (b : Backoff α) : Backoff α := ⟨b.floor, b.floor, b.factor, b.max, b.policy⟩

def delay (b : Backoff α) : α :=
  let seconds := match b.policy with
    | .backoff => b.current
    | .constant => atMost 1 b.current
  if 0 ≤ seconds then seconds else b.max

end Backoff

structure Duration where
  seconds : Nat
  nanoseconds : Nat
  deriving DecidableEq

def Duration.perSecond : Nat := 1000000000

def Duration.ofSeconds : Double → Duration
  | .signed false m =>
    let (n, d) := Binary.shift 2 (Binary.scaled .double m).1 1 (Binary.scaled .double m).2
    let nanoseconds := Binary.nearest (n * perSecond) d
    ⟨nanoseconds / perSecond, nanoseconds % perSecond⟩
  | _ => ⟨0, 0⟩

end Display3270
