import Mathlib.Algebra.Order.Field.Rat
import Mathlib.Data.List.Induction
import Mathlib.Logic.Function.Iterate
import Mathlib.Tactic.Linarith
import Display3270.Proofs.Calls

namespace Display3270

namespace Backoff

theorem atLeast_eq (low x : ℚ) : atLeast low x = Max.max x low := by
  unfold atLeast
  split
  case isTrue h => exact (max_eq_left h).symm
  case isFalse h => exact (max_eq_right (le_of_not_ge h)).symm

theorem atMost_eq (high x : ℚ) : atMost high x = min x high := by
  unfold atMost
  split
  case isTrue h => exact (min_eq_left h).symm
  case isFalse h => exact (min_eq_right (le_of_not_ge h)).symm

theorem clamp_bounds {low high : ℚ} (h : low ≤ high) (x : ℚ) :
    low ≤ clamp low high x ∧ clamp low high x ≤ high := by
  unfold clamp
  split_ifs with hlow hhigh
  · exact ⟨le_refl low, h⟩
  · exact ⟨h, le_refl high⟩
  · exact ⟨not_lt.mp hlow, not_lt.mp hhigh⟩

theorem clamp_of_le {low high x : ℚ} (h : low ≤ x) : clamp low high x = min x high := by
  rw [clamp, if_neg (not_lt.mpr h)]
  split
  case isTrue hhigh => exact (min_eq_right hhigh.le).symm
  case isFalse hhigh => exact (min_eq_left (not_lt.mp hhigh)).symm

structure Bounded (b : Backoff ℚ) : Prop where
  floor_nonneg : 0 ≤ b.floor
  floor_le : b.floor ≤ b.current
  le_max : b.current ≤ b.max
  max_le : b.max ≤ 86400

theorem bounded_create (floor factor ceiling : ℚ) (policy : DelayPolicy) :
    (create floor factor ceiling policy).Bounded := by
  have hday : (0 : ℚ) ≤ 86400 := by norm_num
  refine ⟨?_, le_refl _, ?_, ?_⟩
  · simp only [create, atMost_eq, atLeast_eq]
    exact le_min (le_max_right _ _) hday
  · simp only [create, atMost_eq, atLeast_eq]
    exact le_min (le_max_right _ _) (min_le_right _ _)
  · simp only [create, atMost_eq]
    exact min_le_right _ _

theorem bounded_grow {b : Backoff ℚ} (h : b.Bounded) : b.grow.Bounded := by
  obtain ⟨hlow, hhigh⟩ := clamp_bounds (h.floor_le.trans h.le_max) (b.current * b.factor)
  exact ⟨h.floor_nonneg, hlow, hhigh, h.max_le⟩

theorem bounded_iterate {b : Backoff ℚ} (h : b.Bounded) (n : Nat) : (grow^[n] b).Bounded := by
  induction n with
  | zero => exact h
  | succ n ih =>
    rw [Function.iterate_succ_apply']
    exact bounded_grow ih

theorem Bounded.delay_bounds {b : Backoff ℚ} (h : b.Bounded) :
    0 ≤ b.delay ∧ b.delay ≤ 86400 ∧ (b.policy = .constant → b.delay ≤ 1) := by
  have hpos := h.floor_nonneg.trans h.floor_le
  have hday := h.le_max.trans h.max_le
  cases hpolicy : b.policy with
  | backoff =>
    simp only [delay, hpolicy, if_pos hpos]
    exact ⟨hpos, hday, nofun⟩
  | constant =>
    have hwait : 0 ≤ min b.current 1 := le_min hpos zero_le_one
    simp only [delay, hpolicy, atMost_eq, if_pos hwait]
    exact ⟨hwait, (min_le_left _ _).trans hday, fun _ => min_le_right _ _⟩

section Growth

variable {α : Type} [LT α] [DecidableLT α] [Mul α]

theorem kept_iterate (b : Backoff α) (n : Nat) :
    (grow^[n] b).floor = b.floor ∧ (grow^[n] b).factor = b.factor ∧ (grow^[n] b).max = b.max ∧
      (grow^[n] b).policy = b.policy := by
  induction n with
  | zero => exact ⟨rfl, rfl, rfl, rfl⟩
  | succ n ih =>
    rw [Function.iterate_succ_apply']
    exact ih

theorem reset_iterate (b : Backoff α) (n : Nat) : (grow^[n] b).reset = b.reset := by
  obtain ⟨hfloor, hfactor, hmax, hpolicy⟩ := b.kept_iterate n
  rw [reset, hfloor, hfactor, hmax, hpolicy, reset]

end Growth

theorem current_iterate {b : Backoff ℚ} (h : b.Bounded) (hstart : b.current = b.floor)
    (hfactor : 1 ≤ b.factor) (n : Nat) :
    (grow^[n] b).current = min (b.floor * b.factor ^ n) b.max := by
  have hfloor : b.floor ≤ b.max := h.floor_le.trans h.le_max
  have hmax : b.max ≤ b.max * b.factor :=
    le_mul_of_one_le_right (h.floor_nonneg.trans hfloor) hfactor
  induction n with
  | zero => rw [Function.iterate_zero_apply, hstart, pow_zero, mul_one, min_eq_left hfloor]
  | succ n ih =>
    obtain ⟨hf, hk, hm, -⟩ := b.kept_iterate n
    have hlow : b.floor ≤ min (b.floor * b.factor ^ n) b.max := by
      rw [← ih, ← hf]
      exact (bounded_iterate h n).floor_le
    have hgrown : b.floor ≤ min (b.floor * b.factor ^ n) b.max * b.factor :=
      hlow.trans (le_mul_of_one_le_right (h.floor_nonneg.trans hlow) hfactor)
    rw [Function.iterate_succ_apply', grow, hf, hk, hm, ih, clamp_of_le hgrown]
    -- a wait that has reached the greatest one stays there, as the factor does not make it less
    rw [min_mul_of_nonneg _ _ (zero_le_one.trans hfactor), min_assoc, min_eq_right hmax, pow_succ,
      mul_assoc]

end Backoff

namespace Lifecycle

def attempts (calls : List Call) : Nat :=
  (calls.reverse.takeWhile (· ≠ .opened)).count .beginConnect

variable {α : Type} [LE α] [LT α] [DecidableLE α] [DecidableLT α] [Mul α] [OfNat α 0] [OfNat α 1]

theorem run_concat (l : Lifecycle α) (calls : List Call) (c : Call) :
    (l.run (calls ++ [c])).last = ((l.run calls).last.call c).1 := by
  rw [run_append]
  rfl

theorem attempts_concat (calls : List Call) (c : Call) :
    attempts (calls ++ [c]) =
      match c with
      | .opened => 0
      | .beginConnect => attempts calls + 1
      | _ => attempts calls := by
  cases c <;> simp [attempts]

theorem backoff_call (l : Lifecycle α) (c : Call) :
    (l.call c).1.backoff =
      match c with
      | .opened => l.backoff.reset
      | .beginConnect => l.backoff.grow
      | _ => l.backoff := by
  cases c
  case receive text => exact (l.call_display rfl).1.backoff
  all_goals rfl

theorem backoff_run {l : Lifecycle α} (h : l.backoff.reset = l.backoff) (calls : List Call) :
    (l.run calls).last.backoff = Backoff.grow^[attempts calls] l.backoff := by
  induction calls using List.reverseRecOn with
  | nil => rfl
  | append_singleton calls c ih =>
    rw [run_concat, backoff_call, attempts_concat]
    cases c
    case opened =>
      rw [ih, Backoff.reset_iterate]
      exact h
    case beginConnect => rw [ih, Function.iterate_succ_apply']
    all_goals exact ih

theorem delay_mem_run {l : Lifecycle α} {calls : List Call} {wait : α}
    (h : .delay wait ∈ (l.run calls).replies) :
    ∃ before, wait = (l.run before).last.backoff.delay := by
  induction calls generalizing l with
  | nil => cases h
  | cons c cs ih =>
    rw [run_cons] at h
    rcases List.mem_cons.mp h with h | h
    · cases c
      case closed =>
        cases h
        exact ⟨[], rfl⟩
      all_goals cases h
    · obtain ⟨before, hwait⟩ := ih h
      exact ⟨c :: before, hwait⟩

/-- In exact numbers the wait is always between its floor and its greatest value, both within a day,
whatever the settings. The time until the next attempt is at most a day, or a second where it is
constant. An open link sets the wait back; from then on, with a factor that is at least one, it has
grown once for every attempt. -/
theorem run_backoff (session : Session) (floor factor ceiling : ℚ) (policy : DelayPolicy)
    (calls : List Call) :
    let done := (create session (.create floor factor ceiling policy)).run calls
    let b := done.last.backoff
    (0 ≤ b.floor ∧ b.floor ≤ b.current ∧ b.current ≤ b.max ∧ b.max ≤ 86400) ∧
    (b.floor = min (max floor 0) 86400 ∧ b.max = min (max ceiling b.floor) 86400) ∧
    (∀ wait, .delay wait ∈ done.replies →
      0 ≤ wait ∧ wait ≤ 86400 ∧ (policy = .constant → wait ≤ 1)) ∧
    done.last.opened.1.backoff.current = b.floor ∧
    (1 ≤ factor → b.current = min (b.floor * factor ^ attempts calls) b.max) := by
  let start : Backoff ℚ := .create floor factor ceiling policy
  have hstart : start.Bounded := Backoff.bounded_create floor factor ceiling policy
  have hrun : ∀ calls, ((create session start).run calls).last.backoff =
      Backoff.grow^[attempts calls] start := fun calls => backoff_run rfl calls
  obtain ⟨hfloor, -, hmax, -⟩ := start.kept_iterate (attempts calls)
  intro done b
  have hb : b = Backoff.grow^[attempts calls] start := hrun calls
  refine ⟨?_, ?_, ?_, rfl, ?_⟩
  · obtain ⟨hzero, hlow, hhigh, hday⟩ := Backoff.bounded_iterate hstart (attempts calls)
    rw [hb]
    exact ⟨hzero, hlow, hhigh, hday⟩
  · rw [hb, hfloor, hmax]
    simp only [start, Backoff.create, Backoff.atMost_eq, Backoff.atLeast_eq, and_self]
  · intro wait hwait
    obtain ⟨before, rfl⟩ := delay_mem_run hwait
    obtain ⟨-, -, -, hpolicy⟩ := start.kept_iterate (attempts before)
    have hdelay := (Backoff.bounded_iterate hstart (attempts before)).delay_bounds
    rw [hpolicy] at hdelay
    rw [hrun]
    exact hdelay
  · intro hfactor
    rw [hb, hfloor, hmax]
    exact Backoff.current_iterate hstart rfl hfactor (attempts calls)

theorem run_backoff_capped :
    let calls : List Call :=
      [.beginConnect, .opened, .beginConnect, .closed, .beginConnect, .closed, .beginConnect]
    let done := (create default (.create (1 / 2 : ℚ) 3 10 .constant)).run calls
    attempts calls = 3 ∧ (1 : ℚ) ≤ 3 ∧ done.last.backoff.current = 10 ∧
      ∃ wait, .delay wait ∈ done.replies ∧ wait ≤ 1 := by
  intro calls done
  obtain ⟨-, ⟨hfloor, hmax⟩, hdelay, -, hcurrent⟩ :=
    run_backoff default (1 / 2) 3 10 .constant calls
  have hcount : attempts calls = 3 := by decide
  have hfactor : (1 : ℚ) ≤ 3 := by norm_num
  have hmem : .delay _ ∈ done.replies := List.mem_iff_getElem?.mpr ⟨3, rfl⟩
  refine ⟨hcount, hfactor, ?_, _, hmem, (hdelay _ hmem).2.2 rfl⟩
  rw [hcurrent hfactor, hcount, hmax, hfloor]
  norm_num

end Lifecycle

end Display3270
