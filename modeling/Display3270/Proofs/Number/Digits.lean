import Mathlib.Algebra.Order.Ring.Nat
import Mathlib.Data.List.TakeWhile
import Display3270.Number.Decimal

namespace Display3270

theorem isDigit_decimal {n : Nat} {c : Char} (h : c ∈ decimal n) : c.isDigit :=
  Nat.isDigit_of_mem_toDigits (by decide) (by decide) h

theorem isDigit_zero : ∀ c ∈ ['0'], c.isDigit := List.forall_mem_singleton.mpr rfl

theorem decimal_eq_cons {n : Nat} (h : 0 < n) : ∃ c cs, decimal n = c :: cs ∧ c ≠ '0' := by
  induction n using Nat.strongRecOn with
  | ind n ih =>
    by_cases hn : n < 10
    · have hdigit : ∀ m, m < 10 → 0 < m → Nat.digitChar m ≠ '0' := by decide
      exact ⟨_, [], Nat.toDigits_of_lt_base hn, hdigit n hn h⟩
    · obtain ⟨c, cs, hc, hne⟩ := ih (n / 10) (by omega) (by omega)
      refine ⟨c, cs ++ [Nat.digitChar (n % 10)], ?_, hne⟩
      have hsplit : decimal n = decimal (n / 10) ++ [Nat.digitChar (n % 10)] :=
        Nat.toDigits_of_base_le (by decide) (by omega)
      rw [hsplit, hc, List.cons_append]

theorem decimal_length_pos (n : Nat) : 0 < (decimal n).length := Nat.length_toDigits_pos

theorem decimal_bounds {n : Nat} (h : 0 < n) :
    10 ^ ((decimal n).length - 1) ≤ n ∧ n < 10 ^ ((decimal n).length - 1 + 1) := by
  have hpos := decimal_length_pos n
  constructor
  · by_cases hone : (decimal n).length - 1 = 0
    · rw [hone]
      exact h
    · have hlt : ¬ n < 10 ^ ((decimal n).length - 1) := by
        rw [← Nat.length_toDigits_le_iff (by decide) (Nat.pos_of_ne_zero hone), ← decimal]
        omega
      exact Nat.le_of_not_lt hlt
  · rw [Nat.sub_add_cancel hpos]
    exact (Nat.length_toDigits_le_iff (by decide) hpos).mp le_rfl

theorem ofDigitChars_decimal (n : Nat) : Nat.ofDigitChars 10 (decimal n) 0 = n :=
  Nat.ofDigitChars_ten_toDigits

theorem le_ofDigitChars (ds : List Char) (n : Nat) : n ≤ Nat.ofDigitChars 10 ds n := by
  rw [Nat.ofDigitChars_eq_ofDigitChars_zero]
  have hpos : 0 < 10 ^ ds.length := Nat.pow_pos (by decide)
  have hle : n ≤ 10 ^ ds.length * n := Nat.le_mul_of_pos_left n hpos
  omega

theorem ofDigitChars_lt {ds : List Char} (h : ∀ c ∈ ds, c.isDigit) (n : Nat) :
    Nat.ofDigitChars 10 ds n < (n + 1) * 10 ^ ds.length := by
  induction ds generalizing n with
  | nil => simp
  | cons c cs ih =>
    obtain ⟨hc, hcs⟩ := List.forall_mem_cons.mp h
    have hrange := Char.isDigit_iff_toNat.mp hc
    have hdigit : 10 * n + (c.toNat - '0'.toNat) + 1 ≤ (n + 1) * 10 := by
      simp only [Char.reduceToNat] at hrange ⊢
      omega
    rw [Nat.ofDigitChars_cons, List.length_cons, Nat.pow_succ']
    calc Nat.ofDigitChars 10 cs (10 * n + (c.toNat - '0'.toNat))
        < (10 * n + (c.toNat - '0'.toNat) + 1) * 10 ^ cs.length := ih hcs _
      _ ≤ (n + 1) * 10 * 10 ^ cs.length := Nat.mul_le_mul_right _ hdigit
      _ = (n + 1) * (10 * 10 ^ cs.length) := Nat.mul_assoc ..

theorem ofDigitChars_pos {c : Char} (hc : c.isDigit) (hne : c ≠ '0') (cs : List Char) :
    0 < Nat.ofDigitChars 10 (c :: cs) 0 := by
  have hrange := Char.isDigit_iff_toNat.mp hc
  have hzero : c.toNat ≠ '0'.toNat := fun h => hne (Char.toNat_inj.mp h)
  have hle := le_ofDigitChars cs (10 * 0 + (c.toNat - '0'.toNat))
  rw [Nat.ofDigitChars_cons]
  simp only [Char.reduceToNat] at *
  omega

theorem ofDecimal_decimal (n : Nat) : ofDecimal (decimal n) = n := ofDigitChars_decimal n

theorem decimal_stripped {n : Nat} (h : 0 < n) :
    ∃ c cs z, ((decimal n).reverse.dropWhile (· == '0')).reverse = c :: cs ∧ c ≠ '0' ∧
      decimal n = (c :: cs) ++ List.replicate z '0' := by
  obtain ⟨c, cs, hc, hne⟩ := decimal_eq_cons h
  generalize hds : ((decimal n).reverse.dropWhile (· == '0')).reverse = ds
  have hzeros : ∀ a ∈ (decimal n).reverse.takeWhile (· == '0'), a = '0' := by
    intro a ha
    simpa using List.mem_takeWhile_imp ha
  have hsplit : decimal n =
      ds ++ List.replicate ((decimal n).reverse.takeWhile (· == '0')).length '0' := by
    have hwhole := congrArg List.reverse (List.takeWhile_append_dropWhile (p := (· == '0'))
      (l := (decimal n).reverse))
    rw [List.reverse_append, List.reverse_reverse, hds, List.eq_replicate_of_mem hzeros,
      List.reverse_replicate] at hwhole
    rw [List.eq_replicate_of_mem hzeros, List.length_replicate]
    exact hwhole.symm
  cases ds with
  | nil =>
    rw [hc, List.nil_append] at hsplit
    have hzero := List.eq_of_mem_replicate (hsplit ▸ List.mem_cons_self)
    exact absurd hzero hne
  | cons d ds =>
    have hd : c = d := by
      rw [hc] at hsplit
      exact (List.cons.inj hsplit).1
    exact ⟨d, ds, _, rfl, hd ▸ hne, hsplit⟩

end Display3270
