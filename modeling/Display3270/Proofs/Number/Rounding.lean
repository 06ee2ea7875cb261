import Mathlib.Algebra.Order.Field.Power
import Mathlib.Algebra.Order.Field.Rat
import Mathlib.Data.Nat.Cast.Order.Field
import Mathlib.Order.Monotone.Basic
import Mathlib.Tactic.FieldSimp
import Mathlib.Tactic.Linarith
import Mathlib.Tactic.NormNum
import Mathlib.Tactic.Positivity
import Mathlib.Tactic.Ring
import Display3270.Number.Binary

namespace Display3270

namespace Binary

variable {w : Width}

theorem shift_den_pos {base den : Nat} (hb : 0 < base) (hd : 0 < den) (num : Nat) (e : Int) :
    0 < (shift base num den e).2 := by
  unfold shift
  split
  · exact hd
  · exact Nat.mul_pos hd (Nat.pow_pos hb)

theorem ratio_shift {base : Nat} (hb : 0 < base) (num den : Nat) (e : Int) :
    ((shift base num den e).1 : ℚ) / (shift base num den e).2 = num / den * (base : ℚ) ^ e := by
  have hbase : (base : ℚ) ≠ 0 := by positivity
  unfold shift
  split
  case isTrue h =>
    obtain ⟨k, rfl⟩ := Int.eq_ofNat_of_zero_le h
    simp only [Int.toNat_natCast, Nat.pow_eq, Nat.cast_mul, Nat.cast_pow, zpow_natCast]
    ring
  case isFalse h =>
    obtain ⟨k, hk⟩ := Int.eq_ofNat_of_zero_le (show 0 ≤ -e by omega)
    obtain rfl : e = -(k : Int) := by omega
    simp only [neg_neg, Int.toNat_natCast, Nat.pow_eq, Nat.cast_mul, Nat.cast_pow, zpow_neg,
      zpow_natCast]
    rw [div_mul_eq_div_div, div_eq_mul_inv (_ / _)]

theorem quotient_bounds {base num den a b : Nat} (hb : 0 < base)
    (hnum : base ^ a ≤ num ∧ num < base ^ (a + 1)) (hden : base ^ b ≤ den ∧ den < base ^ (b + 1)) :
    (base : ℚ) ^ (a - b - 1 : Int) ≤ num / den ∧ (num : ℚ) / den < base ^ (a - b + 1 : Int) := by
  have hbase : (0 : ℚ) < base := by exact_mod_cast hb
  have hd : (0 : ℚ) < den := by exact_mod_cast Nat.lt_of_lt_of_le (Nat.pow_pos hb) hden.1
  have hnumQ : (base : ℚ) ^ (a : Int) ≤ num ∧ (num : ℚ) < base ^ (a + 1 : Int) := by
    exact_mod_cast hnum
  have hdenQ : (base : ℚ) ^ (b : Int) ≤ den ∧ (den : ℚ) < base ^ (b + 1 : Int) := by
    exact_mod_cast hden
  rw [le_div_iff₀ hd, div_lt_iff₀ hd]
  constructor
  · calc (base : ℚ) ^ (a - b - 1 : Int) * den
          ≤ base ^ (a - b - 1 : Int) * base ^ (b + 1 : Int) := by gcongr; exact hdenQ.2.le
      _ = base ^ (a : Int) := by
        rw [← zpow_add₀ hbase.ne']
        congr 1
        omega
      _ ≤ num := hnumQ.1
  · calc (num : ℚ) < base ^ (a + 1 : Int) := hnumQ.2
      _ = base ^ (a - b + 1 : Int) * base ^ (b : Int) := by
        rw [← zpow_add₀ hbase.ne']
        congr 1
        omega
      _ ≤ base ^ (a - b + 1 : Int) * den := by gcongr; exact hdenQ.1

theorem shift_le_iff {base den : Nat} (hb : 0 < base) (hd : 0 < den) (num : Nat) (e : Int) :
    (shift base num den (-e)).2 ≤ (shift base num den (-e)).1 ↔ (base : ℚ) ^ e ≤ num / den := by
  have hbase : (0 : ℚ) < base := by exact_mod_cast hb
  have hsnd : (0 : ℚ) < (shift base num den (-e)).2 := by
    exact_mod_cast shift_den_pos hb hd num (-e)
  rw [← Nat.cast_le (α := ℚ), ← one_le_div hsnd, ratio_shift hb, zpow_neg, ← div_eq_mul_inv,
    one_le_div (zpow_pos hbase _)]

theorem order_bounds (base : Nat) {num den a b : Nat} (hb : 0 < base)
    (hnum : base ^ a ≤ num ∧ num < base ^ (a + 1)) (hden : base ^ b ≤ den ∧ den < base ^ (b + 1))
    {order : Int} (horder : order =
      if (shift base num den (-(a - b : Int))).2 ≤ (shift base num den (-(a - b : Int))).1
      then (a - b : Int) else a - b - 1) :
    (base : ℚ) ^ order ≤ num / den ∧ (num : ℚ) / den < (base : ℚ) ^ (order + 1) := by
  have hd : 0 < den := Nat.lt_of_lt_of_le (Nat.pow_pos hb) hden.1
  have hquotient := quotient_bounds hb hnum hden
  have htest := shift_le_iff hb hd num (a - b)
  subst horder
  split
  case isTrue h => exact ⟨htest.mp h, hquotient.2⟩
  case isFalse h =>
    refine ⟨hquotient.1, ?_⟩
    rw [sub_add_cancel]
    exact not_le.mp (mt htest.mpr h)

theorem binaryOrder_bounds {num den : Nat} (hn : 0 < num) (hd : 0 < den) :
    (2 : ℚ) ^ binaryOrder num den ≤ num / den ∧
      (num : ℚ) / den < 2 ^ (binaryOrder num den + 1) :=
  order_bounds 2 (by decide) ⟨Nat.log2_self_le hn.ne', Nat.lt_log2_self⟩
    ⟨Nat.log2_self_le hd.ne', Nat.lt_log2_self⟩ rfl

structure Nearest (r : Nat) (v : ℚ) : Prop where
  le : v ≤ r + 1 / 2
  ge : (r : ℚ) ≤ v + 1 / 2
  even : v = r + 1 / 2 ∨ (r : ℚ) = v + 1 / 2 → r % 2 = 0

theorem nearest_natCast (n : Nat) : Nearest n n := by
  refine ⟨by linarith, by linarith, ?_⟩
  rintro (h | h) <;> linarith

theorem nearest_ratio {den : Nat} (hd : 0 < den) (num : Nat) :
    Nearest (nearest num den) (num / den) := by
  have hden : (0 : ℚ) < den := by exact_mod_cast hd
  have hdiv := Nat.div_add_mod num den
  have hlt := Nat.mod_lt num hd
  have hvalue : (num : ℚ) / den = (num / den : Nat) + ((num % den : Nat) : ℚ) / den := by
    field_simp
    exact_mod_cast hdiv.symm
  unfold nearest
  simp only
  -- what the rounding adds to the quotient is read off twice the remainder
  generalize num / den = q at *
  generalize num % den = r at *
  have hhalf : (r : ℚ) / den = r * 2 / den / 2 := by ring
  have htie : (r : ℚ) * 2 / den = 1 → r * 2 = den := by
    rw [div_eq_one_iff_eq hden.ne']
    exact_mod_cast id
  rw [hvalue, hhalf]
  split
  case isTrue h =>
    have hle : (r : ℚ) * 2 / den ≤ 1 := by
      rw [div_le_one hden]
      exact_mod_cast (by omega : r * 2 ≤ den)
    have hpos : 0 ≤ (r : ℚ) * 2 / den := by positivity
    refine ⟨by linarith, by linarith, ?_⟩
    rintro (heq | heq)
    · have := htie (by linarith)
      omega
    · linarith
  case isFalse h =>
    have hge : 1 ≤ (r : ℚ) * 2 / den := by
      rw [one_le_div hden]
      exact_mod_cast (by omega : den ≤ r * 2)
    have hlt : (r : ℚ) * 2 / den < 2 := by
      rw [div_lt_iff₀ hden]
      exact_mod_cast (by omega : r * 2 < 2 * den)
    have hsucc : ((q + 1 : Nat) : ℚ) = q + 1 := Nat.cast_succ q
    refine ⟨by linarith, by linarith, ?_⟩
    rintro (heq | heq)
    · linarith
    · have := htie (by linarith)
      omega

theorem Nearest.mono {r s : Nat} {u v : ℚ} (hr : Nearest r u) (hs : Nearest s v) (h : u ≤ v) :
    r ≤ s := by
  by_contra hlt
  have hge : (s : ℚ) + 1 ≤ r := by exact_mod_cast Nat.lt_of_not_le hlt
  have hrle := hr.ge
  have hsle := hs.le
  have heq : r = s + 1 := by
    have : (r : ℚ) = s + 1 := by linarith
    exact_mod_cast this
  have hreven := hr.even (.inr (by linarith))
  have hseven := hs.even (.inl (by linarith))
  omega

theorem span_pos (w : Width) : 0 < w.span := Nat.pow_pos (by decide)

theorem zpow_fraction (w : Width) (q : Int) : (2 : ℚ) ^ (q + w.fraction) = w.span * 2 ^ q := by
  rw [Width.span, Nat.pow_eq, zpow_add₀ two_ne_zero, zpow_natCast, mul_comm]
  push_cast
  rfl

structure Counted (w : Width) (v : ℚ) (q : Int) : Prop where
  least : w.least ≤ q
  below : v < 2 ^ (q + w.fraction + 1)
  normal : q = w.least ∨ 2 ^ (q + w.fraction) ≤ v

def Rounds (w : Width) (v : ℚ) (m : Nat) : Prop :=
  ∃ q r, Counted w v q ∧ Nearest r (v / 2 ^ q) ∧
    m = min ((q - w.least).toNat * w.span + r) w.infinity

theorem rounds_zero : Rounds w 0 0 := by
  refine ⟨w.least, 0, ⟨le_rfl, by positivity, .inl rfl⟩, ?_, by simp⟩
  simpa using nearest_natCast 0

theorem roundMagnitude_rounds {den : Nat} (hd : 0 < den) (num : Nat) :
    Rounds w (num / den) (roundMagnitude w num den) := by
  unfold roundMagnitude
  split
  case isTrue h =>
    subst h
    simpa using rounds_zero
  case isFalse h =>
    obtain ⟨hle, hlt⟩ := binaryOrder_bounds (Nat.pos_of_ne_zero h) hd
    simp only
    generalize hq : max w.least (binaryOrder num den - w.fraction) = q
    refine ⟨q, _, ⟨by omega, ?_, ?_⟩, ?_, rfl⟩
    · refine hlt.trans_le (zpow_le_zpow_right₀ (by norm_num) ?_)
      omega
    · by_cases hleast : q = w.least
      · exact .inl hleast
      · right
        refine (zpow_le_zpow_right₀ (by norm_num) ?_).trans hle
        omega
    · have hshift := ratio_shift (by decide : 0 < 2) num den (-q)
      rw [Nat.cast_ofNat, zpow_neg, ← div_eq_mul_inv] at hshift
      rw [← hshift]
      exact nearest_ratio (shift_den_pos (by decide) hd num (-q)) _

theorem Counted.nearest_le {v : ℚ} {q : Int} {r : Nat} (h : Counted w v q)
    (hr : Nearest r (v / 2 ^ q)) : r ≤ 2 * w.span := by
  apply hr.mono (nearest_natCast _)
  have hpos : (0 : ℚ) < 2 ^ q := by positivity
  have hbelow := h.below
  rw [zpow_add_one₀ two_ne_zero, zpow_fraction] at hbelow
  rw [div_le_iff₀ hpos]
  push_cast
  linarith

theorem Counted.le_nearest {v : ℚ} {q : Int} {r : Nat} (h : Counted w v q) (hq : q ≠ w.least)
    (hr : Nearest r (v / 2 ^ q)) : w.span ≤ r := by
  apply (nearest_natCast _).mono hr
  have hpos : (0 : ℚ) < 2 ^ q := by positivity
  rw [le_div_iff₀ hpos, ← zpow_fraction]
  exact h.normal.resolve_left hq

theorem Counted.le_of_le {u v : ℚ} {p q : Int} (hu : Counted w u p) (hv : Counted w v q)
    (h : u ≤ v) : p ≤ q := by
  by_contra hlt
  have hleast := hv.least
  have hnormal := hu.normal.resolve_left (by omega)
  have hle : (2 : ℚ) ^ (q + w.fraction + 1) ≤ 2 ^ (p + w.fraction) :=
    zpow_le_zpow_right₀ (by norm_num) (by omega)
  have hbelow := hv.below
  linarith

theorem Rounds.mono {u v : ℚ} {m n : Nat} (hm : Rounds w u m) (hn : Rounds w v n) (h : u ≤ v) :
    m ≤ n := by
  obtain ⟨p, r, hp, hr, rfl⟩ := hm
  obtain ⟨q, s, hq, hs, rfl⟩ := hn
  have hpq := hp.le_of_le hq h
  have hleast := hp.least
  apply min_le_min_right
  -- in a coarser unit the digits start anew, at the span that the finer ones end with
  rcases hpq.eq_or_lt with rfl | hlt
  · have hpos : (0 : ℚ) < 2 ^ p := by positivity
    have hrs := hr.mono hs (by gcongr)
    omega
  · have hrle := hp.nearest_le hr
    have hsge := hq.le_nearest (by omega) hs
    obtain ⟨k, hk⟩ : ∃ k, (q - w.least).toNat = (p - w.least).toNat + 1 + k :=
      ⟨(q - p - 1).toNat, by omega⟩
    rw [hk, Nat.add_mul, Nat.add_mul]
    omega

def worth (w : Width) (m : Nat) : ℚ := (scaled w m).1 * 2 ^ (scaled w m).2

structure Scaled (w : Width) (m c : Nat) (q : Int) : Prop where
  least : w.least ≤ q
  below : c < 2 * w.span
  normal : q = w.least ∨ w.span ≤ c
  count : (q - w.least).toNat * w.span + c = m

theorem scaled_scaled (w : Width) (m : Nat) : Scaled w m (scaled w m).1 (scaled w m).2 := by
  have hspan := span_pos w
  have hmod := Nat.mod_lt m hspan
  have hdiv := Nat.div_add_mod m w.span
  unfold scaled
  simp only
  split
  case isTrue h =>
    rw [h] at hdiv
    exact ⟨le_rfl, by omega, .inl rfl, by simp⟩
  case isFalse h =>
    obtain ⟨e, he⟩ := Nat.exists_eq_succ_of_ne_zero h
    rw [he, Nat.succ_eq_add_one, Nat.mul_add, Nat.mul_comm] at hdiv
    simp only [he, Nat.succ_eq_add_one, Nat.add_sub_cancel]
    refine ⟨by omega, by omega, .inr (by omega), ?_⟩
    rw [add_sub_cancel_left, Int.toNat_natCast]
    omega

theorem Scaled.unique {m c : Nat} {q : Int} (h : Scaled w m c q) : scaled w m = (c, q) := by
  obtain ⟨hleast, hbelow, hnormal, hcount⟩ := h
  obtain ⟨e, he⟩ := Int.eq_ofNat_of_zero_le (show 0 ≤ q - w.least by omega)
  have hq : q = w.least + e := by omega
  have hspan := span_pos w
  rw [he, Int.toNat_natCast] at hcount
  subst hq hcount
  unfold scaled
  simp only
  by_cases hc : c < w.span
  · obtain rfl : e = 0 := by omega
    simp [Nat.div_eq_of_lt hc]
  · obtain ⟨r, rfl⟩ := Nat.exists_eq_add_of_le (Nat.le_of_not_lt hc)
    have hr : r < w.span := by omega
    have hshape : e * w.span + (w.span + r) = r + (e + 1) * w.span := by ring
    rw [hshape, Nat.add_mul_div_right _ _ hspan, Nat.div_eq_of_lt hr, Nat.add_mul_mod_self_right,
      Nat.mod_eq_of_lt hr]
    simp [Nat.add_comm]

theorem worth_eq {m c : Nat} {q : Int} (h : Scaled w m c q) : worth w m = c * 2 ^ q := by
  rw [worth, h.unique]

theorem worth_succ {m c : Nat} {q : Int} (h : Scaled w m c q) :
    worth w (m + 1) = (c + 1) * 2 ^ q := by
  obtain ⟨hleast, hbelow, hnormal, hcount⟩ := h
  have hspan := span_pos w
  by_cases hc : c + 1 < 2 * w.span
  · have hsucc : Scaled w (m + 1) (c + 1) q := ⟨hleast, hc, by omega, by omega⟩
    rw [worth_eq hsucc, Nat.cast_succ]
  · have hshift : (q + 1 - w.least).toNat = (q - w.least).toNat + 1 := by omega
    have hsucc : Scaled w (m + 1) w.span (q + 1) := by
      refine ⟨by omega, by omega, .inr le_rfl, ?_⟩
      rw [hshift, Nat.add_mul]
      omega
    have hcarry : (c : ℚ) + 1 = 2 * w.span := by exact_mod_cast (by omega : c + 1 = 2 * w.span)
    rw [worth_eq hsucc, hcarry, zpow_add_one₀ two_ne_zero]
    ring

theorem worth_nonneg (w : Width) (m : Nat) : 0 ≤ worth w m := by
  unfold worth
  positivity

theorem rounds_worth {m : Nat} (h : m ≤ w.infinity) : Rounds w (worth w m) m := by
  obtain ⟨hleast, hbelow, hnormal, hcount⟩ := scaled_scaled w m
  generalize hc : (scaled w m).1 = c at *
  generalize hq : (scaled w m).2 = q at *
  have hpos : (0 : ℚ) < 2 ^ q := by positivity
  rw [worth, hc, hq]
  refine ⟨q, c, ⟨hleast, ?_, ?_⟩, ?_, ?_⟩
  · rw [zpow_add_one₀ two_ne_zero, zpow_fraction, mul_right_comm]
    gcongr
    exact_mod_cast (by omega : c < w.span * 2)
  · refine hnormal.imp_right fun hge => ?_
    rw [zpow_fraction]
    gcongr
  · rw [mul_div_assoc, div_self hpos.ne', mul_one]
    exact nearest_natCast c
  · rw [hcount, min_eq_left h]

theorem worth_strictMono : StrictMono (worth w) := by
  apply strictMono_nat_of_lt_succ
  intro m
  have hscaled := scaled_scaled w m
  rw [worth_succ hscaled, worth_eq hscaled]
  gcongr
  linarith

def midpoint (w : Width) (m : Nat) : ℚ := (worth w m + worth w (m + 1)) / 2

theorem midpoint_eq {m c : Nat} {q : Int} (h : Scaled w m c q) :
    midpoint w m = (c + 1 / 2) * 2 ^ q := by
  rw [midpoint, worth_eq h, worth_succ h]
  ring

theorem Scaled.counted_midpoint {m c : Nat} {q : Int} (h : Scaled w m c q) :
    Counted w (midpoint w m) q := by
  rw [midpoint_eq h]
  refine ⟨h.least, ?_, h.normal.imp_right fun hge => ?_⟩
  · have hbelow := h.below
    have hlt : (c : ℚ) + 1 ≤ w.span * 2 := by exact_mod_cast (by omega : c + 1 ≤ w.span * 2)
    rw [zpow_add_one₀ two_ne_zero, zpow_fraction, mul_right_comm]
    gcongr
    linarith
  · have hle : (w.span : ℚ) ≤ c := by exact_mod_cast hge
    rw [zpow_fraction]
    gcongr
    linarith

theorem Rounds.le_of_lt_midpoint {v : ℚ} {k m : Nat} (hk : Rounds w v k) (h : v < midpoint w m) :
    k ≤ m := by
  obtain ⟨p, r, hp, hr, rfl⟩ := hk
  have hm := scaled_scaled w m
  generalize (scaled w m).1 = c at hm
  generalize (scaled w m).2 = q at hm
  have hcount := hm.count
  have hpq := hp.le_of_le hm.counted_midpoint h.le
  have hleast := hp.least
  apply (min_le_left _ _).trans
  rcases hpq.eq_or_lt with rfl | hlt
  · have hpos : (0 : ℚ) < 2 ^ p := by positivity
    rw [midpoint_eq hm, ← div_lt_iff₀ hpos] at h
    have hrge := hr.ge
    have hrc : (r : ℚ) < c + 1 := by linarith
    have hrc : r < c + 1 := by exact_mod_cast hrc
    omega
  · have hrle := hp.nearest_le hr
    have hcge := hm.normal.resolve_left (by omega)
    obtain ⟨j, hj⟩ : ∃ j, (q - w.least).toNat = (p - w.least).toNat + 1 + j :=
      ⟨(q - p - 1).toNat, by omega⟩
    rw [hj, Nat.add_mul, Nat.add_mul] at hcount
    omega

theorem rounds_midpoint {m : Nat} (hm : m < w.infinity) (hodd : m % 2 = 1)
    (hw : w.span % 2 = 0) : Rounds w (midpoint w m) (m + 1) := by
  have hscaled := scaled_scaled w m
  generalize (scaled w m).1 = c at hscaled
  generalize (scaled w m).2 = q at hscaled
  have hcount := hscaled.count
  have hc : (c + 1) % 2 = 0 := by
    have hparity : (q - w.least).toNat * w.span % 2 = 0 := by
      rw [Nat.mul_mod, hw, Nat.mul_zero, Nat.zero_mod]
    omega
  have hpos : (0 : ℚ) < 2 ^ q := by positivity
  refine ⟨q, c + 1, hscaled.counted_midpoint, ?_, ?_⟩
  · rw [midpoint_eq hscaled, mul_div_assoc, div_self hpos.ne', mul_one]
    have hsucc : ((c + 1 : Nat) : ℚ) = c + 1 := Nat.cast_succ c
    exact ⟨by linarith, by linarith, fun _ => hc⟩
  · rw [← Nat.add_assoc, hcount, min_eq_left hm]

/-- Where rounding reaches infinity: halfway beyond the greatest finite value. -/
def limit (w : Width) : ℚ := midpoint w (w.infinity - 1)

theorem Rounds.lt_infinity_iff {v : ℚ} {m : Nat} (h : Rounds w v m) (hw : w.span % 2 = 0)
    (hpos : 0 < w.infinity) : m < w.infinity ↔ v < limit w := by
  have heven : w.infinity % 2 = 0 := by rw [Width.infinity, Nat.mul_mod, hw, Nat.mul_zero]
  constructor
  · intro hm
    by_contra hv
    have hlimit := rounds_midpoint (w := w) (m := w.infinity - 1) (by omega) (by omega) hw
    have hle := hlimit.mono h (not_lt.mp hv)
    omega
  · intro hv
    have hle := h.le_of_lt_midpoint hv
    omega

theorem limit_double : limit .double = ((2 ^ 54 - 1) * 2 ^ 970 : Nat) := by
  have hscaled : Scaled .double (Width.double.infinity - 1) (2 ^ 53 - 1) 971 :=
    ⟨by decide, by decide, by decide, by decide⟩
  have hunit : (2 : ℚ) ^ (971 : Int) = 2 * 2 ^ 970 := by
    rw [show (971 : Int) = (971 : Nat) by rfl, zpow_natCast, pow_succ']
  rw [limit, midpoint_eq hscaled, hunit, Nat.cast_mul, Nat.cast_pow 2 970, Nat.cast_ofNat]
  generalize (2 : ℚ) ^ 970 = unit
  push_cast
  ring

theorem limit_single : limit .single = 2 ^ 128 - 2 ^ 103 := by
  have hscaled : Scaled .single (Width.single.infinity - 1) (2 ^ 24 - 1) 104 :=
    ⟨by decide, by decide, by decide, by decide⟩
  rw [limit, midpoint_eq hscaled]
  norm_num

theorem ofScaled_rounds (negative : Bool) (m : Nat) (e : Int) :
    ∃ k, (ofScaled negative m e : Binary w) = .signed negative k ∧ Rounds w (m * 2 ^ e) k := by
  have hvalue := ratio_shift (by decide : 0 < 2) m 1 e
  have hrounds := roundMagnitude_rounds (w := w)
    (shift_den_pos (by decide : 0 < 2) (by decide : 0 < 1) m e) (shift 2 m 1 e).1
  rw [hvalue, Nat.cast_one, div_one, Nat.cast_ofNat] at hrounds
  exact ⟨_, rfl, hrounds⟩

theorem mul_rounds {m n : Nat} (hm : m < w.infinity) (hn : n < w.infinity) (s t : Bool) :
    ∃ k, (.signed s m * .signed t n : Binary w) = .signed (s ^^ t) k ∧
      Rounds w (worth w m * worth w n) k := by
  obtain ⟨k, hk, hrounds⟩ := ofScaled_rounds (w := w) (s ^^ t) ((scaled w m).1 * (scaled w n).1)
    ((scaled w m).2 + (scaled w n).2)
  have hvalue : worth w m * worth w n = ((scaled w m).1 * (scaled w n).1 : Nat) *
      2 ^ ((scaled w m).2 + (scaled w n).2) := by
    rw [worth, worth, zpow_add₀ two_ne_zero]
    push_cast
    ring
  refine ⟨k, ?_, hvalue ▸ hrounds⟩
  have hmul : (.signed s m * .signed t n : Binary w) = mul (.signed s m) (.signed t n) := rfl
  simp only [hmul, mul, hm.ne, hn.ne, or_self, ↓reduceIte, hk]

theorem div_rounds {m n : Nat} (hm : m < w.infinity) (hn : n < w.infinity) (hpos : 0 < n)
    (s t : Bool) :
    ∃ k, (.signed s m / .signed t n : Binary w) = .signed (s ^^ t) k ∧
      Rounds w (worth w m / worth w n) k := by
  have hden : 0 < (scaled w n).1 := by
    have hscaled := scaled_scaled w n
    by_contra hzero
    have hcount := hscaled.count
    have hspan := span_pos w
    rcases hscaled.normal with h | h
    · rw [h] at hcount
      simp at hcount
      omega
    · omega
  have hvalue := ratio_shift (by decide : 0 < 2) (scaled w m).1 (scaled w n).1
    ((scaled w m).2 - (scaled w n).2)
  have hrounds := roundMagnitude_rounds (w := w)
    (shift_den_pos (by decide : 0 < 2) hden (scaled w m).1 ((scaled w m).2 - (scaled w n).2))
    (shift 2 (scaled w m).1 (scaled w n).1 ((scaled w m).2 - (scaled w n).2)).1
  have hworth : worth w m / worth w n = (scaled w m).1 / (scaled w n).1 *
      (2 : ℚ) ^ ((scaled w m).2 - (scaled w n).2) := by
    rw [worth, worth, zpow_sub₀ two_ne_zero, div_mul_div_comm]
  rw [hvalue, Nat.cast_ofNat, ← hworth] at hrounds
  refine ⟨_, ?_, hrounds⟩
  have hdiv : (.signed s m / .signed t n : Binary w) = div (.signed s m) (.signed t n) := rfl
  simp only [hdiv, div, hm.ne, hn.ne, hpos.ne', ↓reduceIte]
  rfl

theorem convert_rounds {v : Width} {m : Nat} (hm : m < w.infinity) (s : Bool) :
    ∃ k, (convert (.signed s m : Binary w) : Binary v) = .signed s k ∧
      Rounds v (worth w m) k := by
  obtain ⟨k, hk, hrounds⟩ := ofScaled_rounds (w := v) s (scaled w m).1 (scaled w m).2
  refine ⟨k, ?_, hrounds⟩
  rw [convert, if_neg hm.ne, hk]

end Binary

end Display3270
