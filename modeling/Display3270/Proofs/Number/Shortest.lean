import Display3270.Proofs.Number.Digits
import Display3270.Proofs.Number.Rounding

namespace Display3270

namespace Binary

variable {w : Width}

theorem decimalOrder_bounds {num den : Nat} (hn : 0 < num) (hd : 0 < den) :
    (10 : ℚ) ^ decimalOrder num den ≤ num / den ∧
      (num : ℚ) / den < 10 ^ (decimalOrder num den + 1) := by
  have hnum := decimal_length_pos num
  have hden := decimal_length_pos den
  have hcast : ((decimal num).length : Int) - (decimal den).length =
      ((decimal num).length - 1 : Nat) - ((decimal den).length - 1 : Nat) := by omega
  refine order_bounds 10 (by decide) (decimal_bounds hn) (decimal_bounds hd) ?_
  rw [← hcast]
  rfl

def grid (w : Width) (m : Nat) (k : Int) : Nat × Nat :=
  shift 10 (shift 2 1 1 ((scaled w m).2 - 2)).1 (shift 2 1 1 ((scaled w m).2 - 2)).2 (-k)

def identifies (w : Width) (m : Nat) (k : Int) (c : Nat) : Bool :=
  let a := (scaled w m).1
  let (n, d) := grid w m k
  let below := if m % w.span = 0 ∧ w.span < m then 1 else 2
  if a % 2 = 0 then (4 * a - below) * n ≤ c * d && c * d ≤ (4 * a + 2) * n
  else (4 * a - below) * n < c * d && c * d < (4 * a + 2) * n

def neighbour (inside : Nat → Bool) (value d : Nat) : Option Nat :=
  let nearer := nearest value d
  let other := if nearer = value / d then value / d + 1 else value / d
  if inside nearer then some nearer else if inside other then some other else none

theorem gridPoint_eq (w : Width) (m : Nat) (k : Int) :
    gridPoint w m k =
      neighbour (identifies w m k) (4 * (scaled w m).1 * (grid w m k).1) (grid w m k).2 := rfl

theorem nearest_le (num den : Nat) : nearest num den ≤ num / den + 1 := by
  unfold nearest
  simp only
  split <;> omega

theorem neighbour_some {inside : Nat → Bool} {value d c : Nat}
    (h : neighbour inside value d = some c) : inside c ∧ c ≤ value / d + 1 := by
  have hnearest := nearest_le value d
  unfold neighbour at h
  simp only at h
  have hother : (if nearest value d = value / d then value / d + 1 else value / d) ≤
      value / d + 1 := by
    split <;> omega
  generalize (if nearest value d = value / d then value / d + 1 else value / d) = other at h hother
  by_cases hin : inside (nearest value d)
  · rw [if_pos hin] at h
    obtain rfl := Option.some.inj h
    exact ⟨hin, hnearest⟩
  · rw [if_neg hin] at h
    obtain ⟨hin, hc⟩ := Option.ite_none_right_eq_some.mp h
    obtain rfl := Option.some.inj hc
    exact ⟨hin, hother⟩

theorem grid_ratio (w : Width) (m : Nat) (k : Int) :
    ((grid w m k).1 : ℚ) / (grid w m k).2 = 2 ^ (scaled w m).2 / 4 / 10 ^ k := by
  rw [grid, ratio_shift (by decide), ratio_shift (by decide), zpow_neg, ← div_eq_mul_inv]
  push_cast
  rw [zpow_sub₀ two_ne_zero]
  norm_num

theorem grid_den_pos (w : Width) (m : Nat) (k : Int) : 0 < (grid w m k).2 :=
  shift_den_pos (by decide) (shift_den_pos (by decide) (by decide) _ _) _ _

theorem grid_num_pos (w : Width) (m : Nat) (k : Int) : 0 < (grid w m k).1 := by
  have hd : (0 : ℚ) < (grid w m k).2 := by exact_mod_cast grid_den_pos w m k
  have hratio : (0 : ℚ) < (grid w m k).1 / (grid w m k).2 := by
    rw [grid_ratio]
    positivity
  rw [div_pos_iff_of_pos_right hd] at hratio
  exact_mod_cast hratio

theorem scaled_pos {m : Nat} (hm : 0 < m) : 0 < (scaled w m).1 := by
  have hscaled := scaled_scaled w m
  have hspan := span_pos w
  by_contra hzero
  rcases hscaled.normal with h | h
  · have hcount := hscaled.count
    rw [h, sub_self, Int.toNat_zero] at hcount
    omega
  · omega

theorem identifies_bounds {m c : Nat} {k : Int} (hm : 0 < m) (h : identifies w m k c) :
    0 < c ∧ c * (grid w m k).2 ≤ (4 * (scaled w m).1 + 2) * (grid w m k).1 := by
  have hn := grid_num_pos w m k
  have ha := scaled_pos (w := w) hm
  have hlow : ∀ below ≤ 2, 0 < (4 * (scaled w m).1 - below) * (grid w m k).1 := by
    intro below hle
    exact Nat.mul_pos (by omega) hn
  have hpos : 0 < c * (grid w m k).2 → 0 < c := Nat.pos_of_mul_pos_right
  unfold identifies at h
  simp only at h
  have hbelow := hlow (if m % w.span = 0 ∧ w.span < m then 1 else 2) (by split <;> omega)
  split at h <;> simp only [Bool.and_eq_true, decide_eq_true_eq] at h
  · exact ⟨hpos (by omega), h.2⟩
  · exact ⟨hpos (by omega), h.2.le⟩

theorem nearest_bounds {den : Nat} (hd : 0 < den) (num : Nat) :
    2 * num ≤ 2 * (nearest num den * den) + den ∧
      2 * (nearest num den * den) ≤ 2 * num + den := by
  have hdiv := Nat.div_add_mod num den
  have hlt := Nat.mod_lt num hd
  rw [Nat.mul_comm] at hdiv
  unfold nearest
  simp only
  split
  · omega
  · rw [Nat.add_mul]
    omega

theorem identifies_nearest {m : Nat} (hm : 0 < m) {k : Int}
    (h : (grid w m k).2 < 2 * (grid w m k).1) :
    identifies w m k (nearest (4 * (scaled w m).1 * (grid w m k).1) (grid w m k).2) := by
  have hn := grid_num_pos w m k
  have hnear := nearest_bounds (grid_den_pos w m k) (4 * (scaled w m).1 * (grid w m k).1)
  have ha := scaled_pos (w := w) hm
  unfold identifies
  simp only
  generalize nearest (4 * (scaled w m).1 * (grid w m k).1) (grid w m k).2 * (grid w m k).2 = point
    at hnear
  have hlow : ∀ below, 1 ≤ below → (4 * (scaled w m).1 - below) * (grid w m k).1 < point := by
    intro below hbelow
    have hle : (4 * (scaled w m).1 - below) * (grid w m k).1 ≤
        (4 * (scaled w m).1 - 1) * (grid w m k).1 := Nat.mul_le_mul_right _ (by omega)
    have hsub := Nat.sub_one_mul (4 * (scaled w m).1) (grid w m k).1
    have hpos := Nat.le_mul_of_pos_left (grid w m k).1 (by omega : 0 < 4 * (scaled w m).1)
    omega
  have hhigh : point < (4 * (scaled w m).1 + 2) * (grid w m k).1 := by
    rw [Nat.add_mul]
    omega
  have hbelow := hlow (if m % w.span = 0 ∧ w.span < m then 1 else 2) (by split <;> omega)
  split <;> simp only [Bool.and_eq_true, decide_eq_true_eq]
  · exact ⟨hbelow.le, hhigh.le⟩
  · exact ⟨hbelow, hhigh⟩

theorem gridPoint_bounds {m c : Nat} {k : Int} (hm : 0 < m) (h : gridPoint w m k = some c) :
    0 < c ∧ (c : ℚ) * 10 ^ k ≤ midpoint w m ∧ (c : ℚ) ≤ worth w m / 10 ^ k + 1 := by
  rw [gridPoint_eq] at h
  obtain ⟨hinside, hc⟩ := neighbour_some h
  obtain ⟨hpos, hhigh⟩ := identifies_bounds hm hinside
  have hd : (0 : ℚ) < (grid w m k).2 := by exact_mod_cast grid_den_pos w m k
  have hk : (0 : ℚ) < 10 ^ k := by positivity
  refine ⟨hpos, ?_, ?_⟩
  · have hle : (c : ℚ) * (grid w m k).2 ≤ (4 * (scaled w m).1 + 2) * (grid w m k).1 := by
      exact_mod_cast hhigh
    rw [← le_div_iff₀ hd, mul_div_assoc, grid_ratio, ← mul_div_assoc, le_div_iff₀ hk] at hle
    rw [midpoint_eq (scaled_scaled w m)]
    linarith
  · have hfloor := Nat.cast_div_le (α := ℚ) (m := 4 * (scaled w m).1 * (grid w m k).1)
      (n := (grid w m k).2)
    have hle : (c : ℚ) ≤ (4 * (scaled w m).1 * (grid w m k).1 / (grid w m k).2 : Nat) + 1 := by
      exact_mod_cast hc
    have hvalue : ((4 * (scaled w m).1 * (grid w m k).1 : Nat) : ℚ) / (grid w m k).2 =
        worth w m / 10 ^ k := by
      push_cast
      rw [mul_div_assoc, grid_ratio, worth]
      ring
    linarith

theorem gridPoint_isSome {m : Nat} (hm : 0 < m) {k : Int}
    (h : 2 * (10 : ℚ) ^ k < 2 ^ (scaled w m).2) : (gridPoint w m k).isSome := by
  have hd : (0 : ℚ) < (grid w m k).2 := by exact_mod_cast grid_den_pos w m k
  have hk : (0 : ℚ) < 10 ^ k := by positivity
  have hfine : (grid w m k).2 < 2 * (grid w m k).1 := by
    have hratio : (1 : ℚ) < 2 * ((grid w m k).1 / (grid w m k).2) := by
      rw [grid_ratio, div_div, ← mul_div_assoc, one_lt_div (by positivity)]
      linarith
    rw [← mul_div_assoc, one_lt_div hd] at hratio
    exact_mod_cast hratio
  simp only [gridPoint_eq, neighbour, identifies_nearest hm hfine, ↓reduceIte, Option.isSome_some]

theorem searchDigits_eq {m : Nat} {order : Int} {last : Nat}
    (hlast : (gridPoint w m (order - last + 1)).isSome) (fuel : Nat) {count : Nat}
    (hcount : count ≤ last) (hfuel : last < count + fuel) :
    ∃ j c, j ≤ last ∧ gridPoint w m (order - j + 1) = some c ∧
      searchDigits w m order count fuel = (c, order - j + 1) := by
  induction fuel generalizing count with
  | zero => omega
  | succ fuel ih =>
    rw [searchDigits]
    cases hpoint : gridPoint w m (order - count + 1) with
    | some c => exact ⟨count, c, hcount, hpoint, rfl⟩
    | none =>
      have hne : count ≠ last := by
        rintro rfl
        rw [hpoint] at hlast
        cases hlast
      exact ih (by omega) (by omega)

structure Readable (ds : List Char) (order : Int) : Prop where
  digits : ∀ c ∈ ds, c.isDigit
  first : ∃ c cs, ds = c :: cs ∧ c ≠ '0'
  few : Nat.ofDigitChars 10 ds 0 ≤ 10 ^ 18
  inRange : (Nat.ofDigitChars 10 ds 0 : ℚ) * 10 ^ (order - ds.length + 1) ≤
    worth .double (Width.double.infinity - 1)

theorem readable_stripped {c : Nat} {k : Int} (hpos : 0 < c) (hfew : c ≤ 10 ^ 18)
    (hrange : (c : ℚ) * 10 ^ k ≤ worth .double (Width.double.infinity - 1)) :
    Readable ((decimal c).reverse.dropWhile (· == '0')).reverse
      (k + (decimal c).length - 1) := by
  obtain ⟨d, ds, z, hstrip, hd, hsplit⟩ := decimal_stripped hpos
  rw [hstrip]
  have hvalue : c = 10 ^ z * Nat.ofDigitChars 10 (d :: ds) 0 := by
    rw [← Nat.ofDigitChars_replicate_zero, ← Nat.ofDigitChars_append, ← hsplit,
      ofDigitChars_decimal]
  have hlength : (decimal c).length = (d :: ds).length + z := by
    rw [hsplit, List.length_append, List.length_replicate]
  refine ⟨?_, ⟨d, ds, rfl, hd⟩, ?_, ?_⟩
  · intro a ha
    apply isDigit_decimal (n := c)
    rw [hsplit]
    exact List.mem_append_left _ ha
  · have hle := Nat.le_mul_of_pos_left (Nat.ofDigitChars 10 (d :: ds) 0)
      (Nat.pow_pos (n := z) (by decide : 0 < 10))
    omega
  · have hexponent : k + ((decimal c).length : Int) - 1 - ((d :: ds).length : Int) + 1 = z + k := by
      rw [hlength]
      omega
    apply le_trans _ hrange
    rw [hexponent, zpow_add₀ (by norm_num), zpow_natCast, hvalue]
    push_cast
    linarith

theorem two_mul_grid_lt {m : Nat} (hw : 4 * w.span ≤ 10 ^ 17) {order : Int}
    (horder : (10 : ℚ) ^ order ≤ worth w m) :
    2 * (10 : ℚ) ^ (order - 18 + 1) < 2 ^ (scaled w m).2 := by
  have hscaled := scaled_scaled w m
  have hunit : (0 : ℚ) < 2 ^ (scaled w m).2 := by positivity
  have hcount : ((scaled w m).1 : ℚ) < 2 * w.span := by exact_mod_cast hscaled.below
  have hspan : 4 * (w.span : ℚ) ≤ 10 ^ 17 := by exact_mod_cast hw
  have hsplit : (10 : ℚ) ^ order = 10 ^ (order - 18 + 1) * 10 ^ 17 := by
    rw [← zpow_natCast, ← zpow_add₀ (by norm_num)]
    congr 1
    omega
  calc 2 * (10 : ℚ) ^ (order - 18 + 1) = 2 * 10 ^ order / 10 ^ 17 := by
        rw [hsplit]
        ring
    _ ≤ 2 * worth w m / 10 ^ 17 := by gcongr
    _ < 2 * (2 * w.span * 2 ^ (scaled w m).2) / 10 ^ 17 := by
      rw [worth]
      gcongr
    _ = 4 * w.span / 10 ^ 17 * 2 ^ (scaled w m).2 := by ring
    _ ≤ 1 * 2 ^ (scaled w m).2 := by
      gcongr
      rw [div_le_one (by norm_num)]
      exact hspan
    _ = 2 ^ (scaled w m).2 := one_mul _

theorem worth_order {m : Nat} (hm : 0 < m) {order : Int}
    (horder : decimalOrder (shift 2 (scaled w m).1 1 (scaled w m).2).1
      (shift 2 (scaled w m).1 1 (scaled w m).2).2 = order) :
    (10 : ℚ) ^ order ≤ worth w m ∧ worth w m < 10 ^ (order + 1) := by
  subst horder
  have hden := shift_den_pos (by decide : 0 < 2) (by decide : 0 < 1) (scaled w m).1 (scaled w m).2
  have hvalue := ratio_shift (by decide : 0 < 2) (scaled w m).1 1 (scaled w m).2
  rw [Nat.cast_one, div_one, Nat.cast_ofNat, ← worth] at hvalue
  have hnum : 0 < (shift 2 (scaled w m).1 1 (scaled w m).2).1 := by
    have ha : (0 : ℚ) < (scaled w m).1 := by exact_mod_cast scaled_pos hm
    have hpos : 0 < worth w m := by
      rw [worth]
      positivity
    have hd : (0 : ℚ) < (shift 2 (scaled w m).1 1 (scaled w m).2).2 := by exact_mod_cast hden
    rw [← hvalue, div_pos_iff_of_pos_right hd] at hpos
    exact_mod_cast hpos
  rw [← hvalue]
  exact decimalOrder_bounds hnum hden

/-- Where eighteen digits tell the magnitudes apart, the shortest ones are found and can be read. -/
theorem shortest_readable {m : Nat} (hm : 0 < m) (hw : 4 * w.span ≤ 10 ^ 17)
    (hfuel : 18 < w.fraction + 3)
    (hrange : midpoint w m ≤ worth .double (Width.double.infinity - 1)) :
    Readable (shortest w m).1 (shortest w m).2 := by
  unfold shortest
  simp only
  generalize horder : decimalOrder (shift 2 (scaled w m).1 1 (scaled w m).2).1
    (shift 2 (scaled w m).1 1 (scaled w m).2).2 = order
  obtain ⟨hlow, hhigh⟩ := worth_order hm horder
  have hlast : (gridPoint w m (order - (18 : Nat) + 1)).isSome :=
    gridPoint_isSome hm (two_mul_grid_lt hw hlow)
  obtain ⟨j, c, hj, hpoint, hsearch⟩ :=
    searchDigits_eq hlast (w.fraction + 2) (by decide : 1 ≤ 18) (by omega)
  obtain ⟨hpos, hmid, hc⟩ := gridPoint_bounds hm hpoint
  rw [hsearch]
  apply readable_stripped hpos _ (hmid.trans hrange)
  have hbelow : (c : ℚ) < 10 ^ j + 1 := by
    refine hc.trans_lt (add_lt_add_left ?_ 1)
    rw [div_lt_iff₀ (by positivity), ← zpow_natCast, ← zpow_add₀ (by norm_num)]
    refine hhigh.trans_eq ?_
    congr 1
    omega
  have hle : c < 10 ^ j + 1 := by exact_mod_cast hbelow
  have hmono := Nat.pow_le_pow_right (by decide : 0 < 10) hj
  omega

theorem worth_double :
    worth .double (Width.double.infinity - 1) = ((2 ^ 53 - 1) * 2 ^ 971 : Nat) := by
  have hscaled : Scaled .double (Width.double.infinity - 1) (2 ^ 53 - 1) 971 :=
    ⟨by decide, by decide, by decide, by decide⟩
  rw [worth_eq hscaled, Nat.cast_mul, Nat.cast_pow 2 971, ← zpow_natCast]
  rfl

theorem shortest_double {m : Nat} (hm : 0 < m) (hfinite : m < Width.double.infinity) :
    Readable (shortest .double m).1 (shortest .double m).2 := by
  by_cases hmax : m = Width.double.infinity - 1
  · -- Half a unit beyond the greatest double there is none to bound the digits, so they are found.
    have hdigits : shortest .double (Width.double.infinity - 1) =
        ("17976931348623157".toList, 308) := by decide +kernel
    rw [hmax, hdigits]
    refine ⟨List.all_eq_true.mp rfl, ⟨'1', _, rfl, by decide⟩, by decide, ?_⟩
    have hle : Nat.ofDigitChars 10 "17976931348623157".toList 0 * 10 ^ 292 ≤
        (2 ^ 53 - 1) * 2 ^ 971 := by decide +kernel
    have hexponent : (308 : Int) - "17976931348623157".toList.length + 1 = (292 : Nat) := by decide
    have hcast := Nat.cast_le (α := ℚ).mpr hle
    rw [Nat.cast_mul, Nat.cast_pow] at hcast
    rw [worth_double, hexponent, zpow_natCast]
    exact hcast
  · refine shortest_readable hm (by decide) (by decide) ?_
    have hnext : worth .double m ≤ worth .double (m + 1) := worth_strictMono.monotone (by omega)
    have hlast : worth .double (m + 1) ≤ worth .double (Width.double.infinity - 1) :=
      worth_strictMono.monotone (by omega)
    rw [midpoint]
    linarith

theorem shortest_single {m : Nat} (hm : 0 < m) (hfinite : m < Width.single.infinity) :
    Readable (shortest .single m).1 (shortest .single m).2 := by
  refine shortest_readable hm (by decide) (by decide) ?_
  have hscaled : Scaled .single Width.single.infinity (2 ^ 23) 105 :=
    ⟨by decide, by decide, by decide, by decide⟩
  have hnext : worth .single m ≤ worth .single (m + 1) := worth_strictMono.monotone (by omega)
  have hlast : worth .single (m + 1) ≤ worth .single Width.single.infinity :=
    worth_strictMono.monotone (by omega)
  have hmax : worth .single Width.single.infinity ≤ worth .double (Width.double.infinity - 1) := by
    have hle : 2 ^ 23 * 2 ^ 105 ≤ (2 ^ 53 - 1) * 2 ^ 971 := by decide +kernel
    rw [worth_eq hscaled, worth_double]
    exact_mod_cast hle
  rw [midpoint]
  linarith

end Binary

end Display3270
