import Mathlib.Algebra.Order.Ring.Nat
import Mathlib.Data.List.Chain
import Display3270.Text.BreakClass
import Display3270.Text.Letter

namespace Display3270

namespace Ranges

variable {α : Type}

def Ascending (ranges : Ranges α) : Prop :=
  ranges.toList.IsChain fun r q => r.1 ≤ r.2.1 ∧ r.2.1 < q.1

instance (ranges : Ranges α) : Decidable ranges.Ascending :=
  inferInstanceAs (Decidable (List.IsChain _ _))

def Says (ranges : Ranges α) (code : Nat) (x : α) : Prop :=
  ∃ first last, (first, last, x) ∈ ranges ∧ first ≤ code ∧ code ≤ last

theorem Ascending.lt {ranges : Ranges α} (h : ranges.Ascending) {i j a b c d : Nat} {x y : α}
    (hij : i < j) (hi : ranges[i]? = some (a, b, x)) (hj : ranges[j]? = some (c, d, y)) :
    a ≤ b ∧ b < c := by
  have htrans : IsTrans (Nat × Nat × α) fun r q => r.1 ≤ r.2.1 ∧ r.2.1 < q.1 :=
    ⟨fun r q p hrq hqp => ⟨hrq.1, by omega⟩⟩
  have hpair := List.pairwise_iff_getElem.mp (List.IsChain.pairwise h)
  rw [← Array.getElem?_toList] at hi hj
  obtain ⟨hi, hri⟩ := List.getElem?_eq_some_iff.mp hi
  obtain ⟨hj, hrj⟩ := List.getElem?_eq_some_iff.mp hj
  have hlt := hpair i j hi hj hij
  rwa [hri, hrj] at hlt

theorem Ascending.side {ranges : Ranges α} (h : ranges.Ascending) {k m code first last a b : Nat}
    {x y : α} (hk : ranges[k]? = some (first, last, x)) (hfirst : first ≤ code)
    (hlast : code ≤ last) (hm : ranges[m]? = some (a, b, y)) :
    (code < a ∧ k < m) ∨ (a ≤ b ∧ b < code ∧ m < k) ∨ (a ≤ code ∧ code ≤ b ∧ y = x) := by
  rcases Nat.lt_trichotomy k m with hkm | rfl | hmk
  · have := h.lt hkm hk hm
    exact .inl ⟨by omega, hkm⟩
  · obtain ⟨rfl, rfl, rfl⟩ : a = first ∧ b = last ∧ y = x := by
      rw [hk] at hm
      simpa [eq_comm] using hm
    exact .inr (.inr ⟨hfirst, hlast, rfl⟩)
  · have := h.lt hmk hm hk
    exact .inr (.inl ⟨by omega, by omega, hmk⟩)

theorem search_sound {ranges : Ranges α} {code low high fuel : Nat} {x : α}
    (h : ranges.search code low high fuel = some x) : ranges.Says code x := by
  fun_induction search ranges code low high fuel with
  | case1 | case2 | case6 => simp at h
  | case3 low high fuel hlt middle first last y hget hbefore ih => exact ih h
  | case4 low high fuel hlt middle first last y hget hbefore hafter ih => exact ih h
  | case5 low high fuel hlt middle first last y hget hbefore hafter =>
    obtain rfl : y = x := by simpa using h
    exact ⟨first, last, Array.mem_of_getElem? hget, by omega, by omega⟩

theorem search_complete {ranges : Ranges α} (hasc : ranges.Ascending) {code low high fuel : Nat}
    {k first last : Nat} {x : α} (hk : ranges[k]? = some (first, last, x)) (hfirst : first ≤ code)
    (hlast : code ≤ last) (hlow : low ≤ k) (hhigh : k < high) (hroom : high - low < 2 ^ fuel)
    (hsize : high ≤ ranges.size) : ranges.search code low high fuel = some x := by
  -- the range stays between the bounds, and the fuel lasts for halving what is between them
  fun_induction search ranges code low high fuel with
  | case1 => omega
  | case2 low high fuel hlt middle hnone =>
    have hmiddle : middle < ranges.size := by omega
    simp [hmiddle] at hnone
  | case3 low high fuel hlt middle a b y hget hbefore ih =>
    have hside := hasc.side hk hfirst hlast hget
    exact ih hlow (by omega) (by omega) (by omega)
  | case4 low high fuel hlt middle a b y hget hbefore hafter ih =>
    have hside := hasc.side hk hfirst hlast hget
    exact ih (by omega) hhigh (by omega) hsize
  | case5 low high fuel hlt middle a b y hget hbefore hafter =>
    rcases hasc.side hk hfirst hlast hget with hleft | hright | ⟨-, -, rfl⟩
    · omega
    · omega
    · rfl
  | case6 => omega

theorem lookup?_eq_some_iff {ranges : Ranges α} (h : ranges.Ascending) {code : Nat} {x : α} :
    ranges.lookup? code = some x ↔ ranges.Says code x := by
  refine ⟨search_sound, fun ⟨first, last, hmem, hfirst, hlast⟩ => ?_⟩
  obtain ⟨k, hk⟩ := Array.getElem?_of_mem hmem
  obtain ⟨hlt, -⟩ := Array.getElem?_eq_some_iff.mp hk
  exact search_complete h hk hfirst hlast (Nat.zero_le k) hlt Nat.lt_log2_self le_rfl

theorem lookup?_eq_none_iff {ranges : Ranges α} (h : ranges.Ascending) {code : Nat} :
    ranges.lookup? code = none ↔ ∀ x, ¬ ranges.Says code x := by
  simp only [← lookup?_eq_some_iff h, Option.eq_none_iff_forall_ne_some, ne_eq]

end Ranges

theorem letterRanges_ascending : letterRanges.Ascending := by
  decide +kernel

theorem breakRanges_ascending : breakRanges.Ascending := by
  decide +kernel

theorem isLetter_iff (c : Char) : isLetter c = true ↔ letterRanges.Says c.toNat .letter := by
  rw [isLetter, beq_iff_eq, Ranges.lookup?_eq_some_iff letterRanges_ascending]

theorem isLetterOrNumber_iff (c : Char) :
    isLetterOrNumber c = true ↔
      letterRanges.Says c.toNat .letter ∨ letterRanges.Says c.toNat .number := by
  simp only [isLetterOrNumber, Option.isSome_iff_exists,
    Ranges.lookup?_eq_some_iff letterRanges_ascending]
  constructor
  · rintro ⟨kind, hfound⟩
    cases kind with
    | letter => exact .inl hfound
    | number => exact .inr hfound
  · rintro (hfound | hfound) <;> exact ⟨_, hfound⟩

theorem isLetterOrNumber_of_isAlphanum {c : Char} (h : c.isAlphanum = true) :
    isLetterOrNumber c = true := by
  have htable : ∀ n < 0x80, (Char.ofNat n).isAlphanum = true →
      (letterRanges.lookup? n).isSome = true := by decide +kernel
  have hbound : c.toNat < 0x80 := by
    have hcases : ((decide (c.val ≥ 'A'.val ∧ c.val ≤ 'Z'.val) ||
        (decide (c.val ≥ 'a'.val) && decide (c.val ≤ 'z'.val))) ||
        (decide (c.val ≥ '0'.val) && decide (c.val ≤ '9'.val))) = true := h
    simp only [Bool.or_eq_true, Bool.and_eq_true, decide_eq_true_eq,
      UInt32.le_iff_toNat_le] at hcases
    have hval : c.toNat = c.val.toNat := rfl
    have hUpper : 'Z'.val.toNat = 90 := rfl
    have hLower : 'z'.val.toNat = 122 := rfl
    have hDigit : '9'.val.toNat = 57 := rfl
    omega
  exact htable c.toNat hbound (by rwa [Char.ofNat_toNat])

theorem breakRanges_silent {code : Nat} {k : BreakClass} (h : breakRanges.Says code k) :
    ¬ (0x20 ≤ code ∧ code < 0x7F) ∧ ¬ (0xAC00 ≤ code ∧ code < 0xD7A4) := by
  have houtside : breakRanges.toList.all (fun r =>
      (r.2.1 < 0x20 || 0x7F ≤ r.1) && (r.2.1 < 0xAC00 || 0xD7A4 ≤ r.1)) = true := by decide +kernel
  obtain ⟨first, last, hmem, hfirst, hlast⟩ := h
  have hrange := List.all_eq_true.mp houtside _ hmem.val
  simp only [Bool.and_eq_true, Bool.or_eq_true, decide_eq_true_eq] at hrange
  omega

theorem breakClass_eq {c : Char} {k : BreakClass} (h : breakRanges.Says c.toNat k) :
    breakClass c = k := by
  obtain ⟨hprintable, hsyllable⟩ := breakRanges_silent h
  have hfound := (Ranges.lookup?_eq_some_iff breakRanges_ascending).mpr h
  simp only [breakClass, if_neg hprintable, if_neg hsyllable, hfound, Option.getD_some]

end Display3270
