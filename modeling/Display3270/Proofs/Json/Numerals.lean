import Display3270.Json.Printer
import Display3270.Json.Scan
import Display3270.Proofs.Number.Digits
import Display3270.Proofs.Number.Rounding

namespace Display3270

open Binary (Rounds worth)

def Number.Fits : Number → Prop
  | .int n => -(Nat.pow 2 63 : Int) ≤ n ∧ n < Nat.pow 2 64
  | .double x => x.isFinite
  | .single _ => False

namespace Numeral

theorem significand_lt (ds : List Char) (n : Nat) (h : n < Nat.pow 2 64) :
    (significand n ds).1 < Nat.pow 2 64 := by
  induction ds generalizing n with
  | nil => exact h
  | cons c cs ih =>
    simp only [significand]
    split
    case isTrue hm => exact ih _ hm
    case isFalse => exact h

theorem significand_of_lt (ds : List Char) (n : Nat) (h : Nat.ofDigitChars 10 ds n < Nat.pow 2 64) :
    significand n ds = (Nat.ofDigitChars 10 ds n, []) := by
  induction ds generalizing n with
  | nil => simp [significand]
  | cons c cs ih =>
    rw [Nat.ofDigitChars_cons] at h ⊢
    have hlt : 10 * n + (c.toNat - '0'.toNat) < Nat.pow 2 64 :=
      Nat.lt_of_le_of_lt (le_ofDigitChars cs _) h
    rw [significand, if_pos hlt, ih _ h]

theorem ofInt_rounds (n : Nat) :
    ∃ m, (Binary.ofInt n : Double) = .signed false m ∧ Rounds .double n m := by
  have hrounds := Binary.roundMagnitude_rounds (w := .double) one_pos n
  rw [Nat.cast_one, div_one] at hrounds
  exact ⟨_, rfl, hrounds⟩

theorem isFinite_ofInt {n : Int} (h : n.natAbs < 2 ^ 64) : (Binary.ofInt n : Double).isFinite := by
  have hrounds := Binary.roundMagnitude_rounds (w := .double) one_pos n.natAbs
  have hlt : n.natAbs < (2 ^ 54 - 1) * 2 ^ 970 := Nat.lt_trans h (by decide +kernel)
  rw [Nat.cast_one, div_one] at hrounds
  apply decide_eq_true
  rw [hrounds.lt_infinity_iff (by decide) (by decide), Binary.limit_double]
  exact_mod_cast hlt

theorem ofInt_finite {n : Nat} (h : n < 2 ^ 64) :
    ∃ m, (Binary.ofInt n : Double) = .signed false m ∧ m < Width.double.infinity := by
  obtain ⟨m, hm, -⟩ := ofInt_rounds n
  have hfinite := isFinite_ofInt (n := n) (by rwa [Int.natAbs_natCast])
  rw [hm] at hfinite
  exact ⟨m, hm, of_decide_eq_true hfinite⟩

theorem powerOfTen_finite {k : Nat} (h : k ≤ 308) :
    ∃ m, powerOfTen k = .signed false m ∧ m < Width.double.infinity ∧ 1 ≤ worth .double m := by
  have hrounds := Binary.roundMagnitude_rounds (w := .double) one_pos (Nat.pow 10 k)
  rw [Nat.cast_one, div_one] at hrounds
  refine ⟨_, rfl, ?_, ?_⟩
  · have hlt : 10 ^ k < (2 ^ 54 - 1) * 2 ^ 970 :=
      Nat.lt_of_le_of_lt (Nat.pow_le_pow_right (by decide) h) (by decide +kernel)
    rw [hrounds.lt_infinity_iff (by decide) (by decide), Binary.limit_double]
    exact_mod_cast hlt
  · have hone : Binary.Scaled .double (1023 * 2 ^ 52) (2 ^ 52) (-52) :=
      ⟨by decide, by decide, by decide, by decide⟩
    have hworth : worth .double (1023 * 2 ^ 52) = 1 := by
      rw [Binary.worth_eq hone]
      norm_num
    have hle : worth .double (1023 * 2 ^ 52) ≤ (Nat.pow 10 k : Nat) := by
      rw [hworth]
      exact_mod_cast Nat.one_le_pow k 10 (by decide)
    rw [← hworth]
    exact Binary.worth_strictMono.monotone ((Binary.rounds_worth (by decide)).mono hrounds hle)

theorem div_powerOfTen_finite {m k : Nat} (hm : m < Width.double.infinity) (hk : k ≤ 308) :
    ∃ n, (.signed false m / powerOfTen k : Double) = .signed false n ∧
      n < Width.double.infinity := by
  obtain ⟨p, hp, hfinite, hone⟩ := powerOfTen_finite hk
  have hpos : 0 < p := by
    by_contra hzero
    obtain rfl : p = 0 := by omega
    have hworth : worth .double 0 = 0 := by simp [worth, Binary.scaled]
    linarith
  obtain ⟨n, hn, hrounds⟩ := Binary.div_rounds hm hfinite hpos false false
  have hle := hrounds.mono (Binary.rounds_worth hm.le)
    (div_le_self (Binary.worth_nonneg .double m) hone)
  exact ⟨n, by rw [hp, hn]; rfl, by omega⟩

theorem isFinite_signed {s : Bool} {m : Nat} (h : m < Width.double.infinity) :
    (.signed s m : Double).isFinite := decide_eq_true h

theorem isFinite_neg {x : Double} (h : x.isFinite) : (-x).isFinite := by
  cases x with
  | nan => exact h
  | signed s m => exact h

theorem scale?_isFinite {n : Nat} (hn : n < 2 ^ 64) {e : Int} {y : Double}
    (h : scale? n e = some y) : y.isFinite := by
  obtain ⟨m, hm, hfinite⟩ := ofInt_finite hn
  unfold scale? at h
  simp only [hm] at h
  by_cases he : 0 ≤ e
  · rw [if_pos he] at h
    by_cases hk : e.natAbs ≤ 308
    · rw [if_pos hk] at h
      obtain ⟨hy, hyy⟩ := Option.ite_none_right_eq_some.mp h
      obtain rfl := Option.some.inj hyy
      exact hy
    · rw [if_neg hk] at h
      obtain ⟨-, hyy⟩ := Option.ite_none_right_eq_some.mp h
      obtain rfl := Option.some.inj hyy
      exact isFinite_signed hfinite
  · rw [if_neg he] at h
    by_cases hk : e.natAbs ≤ 308
    · rw [if_pos hk] at h
      obtain ⟨q, hq, hqfinite⟩ := div_powerOfTen_finite hfinite hk
      obtain rfl := Option.some.inj h
      exact hq ▸ isFinite_signed hqfinite
    · rw [if_neg hk] at h
      by_cases hfar : e.natAbs ≤ 616
      · rw [if_pos hfar] at h
        obtain ⟨q, hq, hqfinite⟩ := div_powerOfTen_finite hfinite (le_refl 308)
        obtain ⟨r, hr, hrfinite⟩ :=
          div_powerOfTen_finite (k := e.natAbs - 308) hqfinite (by omega)
        obtain rfl := Option.some.inj h
        rw [hq, hr]
        exact isFinite_signed hrfinite
      · rw [if_neg hfar] at h
        obtain rfl := Option.some.inj h
        rfl

theorem scale?_down (n : Nat) {e : Int} (he : e < 0) : (scale? n e).isSome := by
  unfold scale?
  simp only [Int.not_le.mpr he, ↓reduceIte]
  split
  · rfl
  · split <;> rfl

theorem powerOfTen_mono {j k m n : Nat} (h : j ≤ k) (hm : powerOfTen j = .signed false m)
    (hn : powerOfTen k = .signed false n) : m ≤ n := by
  have hj := Binary.roundMagnitude_rounds (w := .double) one_pos (Nat.pow 10 j)
  have hk := Binary.roundMagnitude_rounds (w := .double) one_pos (Nat.pow 10 k)
  obtain rfl := (Binary.signed.inj hm).2
  obtain rfl := (Binary.signed.inj hn).2
  refine hj.mono hk ?_
  rw [Nat.cast_one, div_one, div_one]
  exact_mod_cast Nat.pow_le_pow_right (by decide) h

theorem ofInt_mono {t u m n : Nat} (h : t ≤ u) (hm : (Binary.ofInt t : Double) = .signed false m)
    (hn : (Binary.ofInt u : Double) = .signed false n) : m ≤ n := by
  obtain ⟨m', hm', hrm⟩ := ofInt_rounds t
  obtain ⟨n', hn', hrn⟩ := ofInt_rounds u
  obtain rfl := (Binary.signed.inj (hm'.symm.trans hm)).2
  obtain rfl := (Binary.signed.inj (hn'.symm.trans hn)).2
  exact hrm.mono hrn (by exact_mod_cast h)

theorem scale?_mono {t u j k : Nat} (htu : t ≤ u) (hu : u < 2 ^ 64) (hjk : j ≤ k) (hk : k ≤ 308)
    (hsome : (scale? u k).isSome) : (scale? t j).isSome := by
  obtain ⟨m, hm, hmfinite⟩ := ofInt_finite (Nat.lt_of_le_of_lt htu hu)
  obtain ⟨n, hn, hnfinite⟩ := ofInt_finite hu
  obtain ⟨p, hp, hpfinite, -⟩ := powerOfTen_finite (hjk.trans hk)
  obtain ⟨q, hq, hqfinite, -⟩ := powerOfTen_finite hk
  obtain ⟨x, hx, hxrounds⟩ := Binary.mul_rounds hmfinite hpfinite false false
  obtain ⟨y, hy, hyrounds⟩ := Binary.mul_rounds hnfinite hqfinite false false
  have hmn : worth .double m ≤ worth .double n :=
    Binary.worth_strictMono.monotone (ofInt_mono htu hm hn)
  have hpq : worth .double p ≤ worth .double q :=
    Binary.worth_strictMono.monotone (powerOfTen_mono hjk hp hq)
  have hle : x ≤ y := hxrounds.mono hyrounds
    (mul_le_mul hmn hpq (Binary.worth_nonneg .double p) (Binary.worth_nonneg .double n))
  simp only [scale?, Int.natCast_nonneg, Int.natAbs_natCast, hjk.trans hk, hk, hm, hn, hp, hq, hx,
    hy, Binary.isFinite, ↓reduceIte, Option.isSome_ite, decide_eq_true_eq] at hsome ⊢
  omega

theorem scale?_greatest : (scale? (10 ^ 18 : Nat) (289 : Nat)).isSome ∧
    ∀ i ∈ List.range 19, (scale? (min (10 ^ 18) ((2 ^ 53 - 1) * 2 ^ 971 / 10 ^ (290 + i)))
      (290 + i : Nat)).isSome := by
  decide +kernel

/-- The product of a number of at most eighteen digits that is no greater than the greatest double
is finite, although its factors are rounded. -/
theorem scale?_up {t k : Nat} (hpos : 0 < t) (hfew : t ≤ 10 ^ 18)
    (hrange : t * 10 ^ k ≤ (2 ^ 53 - 1) * 2 ^ 971) : (scale? t k).isSome := by
  by_cases hsmall : k ≤ 289
  · exact scale?_mono hfew (by decide) hsmall (by decide) scale?_greatest.1
  · have hk : k ≤ 308 := by
      by_contra hlt
      have hpow : 10 ^ 309 ≤ 10 ^ k := pow_le_pow_right₀ (by decide) (by omega)
      have hmul : 10 ^ k ≤ t * 10 ^ k := Nat.le_mul_of_pos_left _ hpos
      have hmax : (2 ^ 53 - 1) * 2 ^ 971 < 10 ^ 309 := by decide +kernel
      exact absurd (hpow.trans (hmul.trans hrange)) (Nat.not_le.mpr hmax)
    have hdiv : t ≤ (2 ^ 53 - 1) * 2 ^ 971 / 10 ^ k :=
      (Nat.le_div_iff_mul_le (Nat.pow_pos (by decide))).mpr hrange
    have hmin : min (10 ^ 18) ((2 ^ 53 - 1) * 2 ^ 971 / 10 ^ k) < 2 ^ 64 :=
      Nat.lt_of_le_of_lt (Nat.min_le_left _ _) (by decide)
    obtain ⟨i, rfl⟩ := Nat.exists_eq_add_of_le (by omega : 290 ≤ k)
    exact scale?_mono (Nat.le_min.mpr ⟨hfew, hdiv⟩) hmin le_rfl hk
      (scale?_greatest.2 i (List.mem_range.mpr (by omega)))

theorem number?_fits {n : Numeral} {x : Number} (h : n.number? = some x) : x.Fits := by
  have hs := significand_lt n.whole.reverse 0 (by decide)
  have ht := significand_lt n.fraction.reverse _ hs
  unfold number? at h
  simp only at h
  split at h
  case isTrue hc =>
    obtain rfl := Option.some.inj h
    obtain ⟨-, -, -, hsign⟩ := hc
    simp only [Nat.pow_eq] at hs hsign
    simp only [Number.Fits, Nat.pow_eq]
    cases hn : n.negative
    · simp only [Bool.false_eq_true, ↓reduceIte]
      omega
    · simp only [hn, reduceCtorEq, false_or] at hsign
      have hle : (significand 0 n.whole.reverse).1 ≤ 2 ^ 63 := hsign.2
      simp only [↓reduceIte]
      omega
  case isFalse =>
    obtain ⟨y, hy, rfl⟩ := Option.map_eq_some_iff.mp h
    have hfinite := scale?_isFinite ht hy
    simp only [Number.Fits]
    split
    · exact isFinite_neg hfinite
    · exact hfinite

def spell (n : Numeral) : List Char :=
  (if n.negative then ['-'] else []) ++ n.whole.reverse ++
    (if n.fraction = [] then [] else '.' :: n.fraction.reverse) ++
    if n.exponent = [] then []
    else 'e' :: (if n.down then '-' else '+') :: n.exponent.reverse

structure WellFormed (n : Numeral) : Prop where
  whole : n.whole = ['0'] ∨ ∃ c cs, n.whole.reverse = c :: cs ∧ c ≠ '0'
  wholeDigits : ∀ c ∈ n.whole, c.isDigit
  fraction : ∀ c ∈ n.fraction, c.isDigit
  exponent : ∀ c ∈ n.exponent, c.isDigit
  down : n.exponent = [] → n.down = false

inductive Takes : Numeral → Phase → List Char → Numeral → Phase → Prop
  | nil (n : Numeral) (p : Phase) : Takes n p [] n p
  | cons {n m k : Numeral} {p q r : Phase} {c : Char} {cs : List Char}
      (first : n.step p c = .more m q) (rest : Takes m q cs k r) : Takes n p (c :: cs) k r

theorem Takes.append {n m k : Numeral} {p q r : Phase} {cs ds : List Char}
    (h : Takes n p cs m q) (hr : Takes m q ds k r) : Takes n p (cs ++ ds) k r := by
  induction h with
  | nil => exact hr
  | cons first rest ih => exact .cons first (ih hr)

def Phase.repeats : Phase → Bool
  | .whole | .fraction | .exponent => true
  | _ => false

def extend (n : Numeral) (cs : List Char) : Phase → Numeral
  | .fraction => ⟨n.negative, n.whole, cs.reverse ++ n.fraction, n.down, n.exponent⟩
  | .exponent => ⟨n.negative, n.whole, n.fraction, n.down, cs.reverse ++ n.exponent⟩
  | _ => ⟨n.negative, cs.reverse ++ n.whole, n.fraction, n.down, n.exponent⟩

theorem step_digit {p : Phase} (hp : p.repeats) {c : Char} (hc : c.isDigit) (n : Numeral) :
    n.step p c = .more (n.extend [c] p) p := by
  cases p
  case whole | fraction | exponent =>
    simp only [step, hc, pushExponent, extend, List.reverse_singleton, List.singleton_append,
      ↓reduceIte]
  all_goals cases hp

theorem extend_cons (n : Numeral) (c : Char) (cs : List Char) (p : Phase) :
    (n.extend [c] p).extend cs p = n.extend (c :: cs) p := by
  cases p <;> simp [extend]

theorem takes_digits {p : Phase} (hp : p.repeats) {cs : List Char} (h : ∀ c ∈ cs, c.isDigit)
    (n : Numeral) : Takes n p cs (n.extend cs p) p := by
  induction cs generalizing n with
  | nil =>
    have hn : n.extend [] p = n := by cases p <;> rfl
    rw [hn]
    exact .nil n p
  | cons c cs ih =>
    obtain ⟨hc, hcs⟩ := List.forall_mem_cons.mp h
    have hrest := ih hcs (n.extend [c] p)
    rw [extend_cons] at hrest
    exact .cons (step_digit hp hc n) hrest

theorem takes_whole {ds : List Char} (h : ds = ['0'] ∨ ∃ c cs, ds = c :: cs ∧ c ≠ '0')
    (hds : ∀ c ∈ ds, c.isDigit) (negative : Bool) :
    ∃ c cs n p q, (if negative then ['-'] else []) ++ ds = c :: cs ∧ start c = some (n, p) ∧
      Takes n p cs ⟨negative, ds.reverse, [], false, []⟩ q ∧ (q = .zero ∨ q = .whole) := by
  rcases h with rfl | ⟨c, cs, rfl, hc⟩
  · cases negative with
    | false => exact ⟨'0', [], _, _, .zero, rfl, rfl, .nil _ _, .inl rfl⟩
    | true => exact ⟨'-', ['0'], _, _, .zero, rfl, rfl, .cons rfl (.nil _ _), .inl rfl⟩
  · obtain ⟨hdigit, hcs⟩ := List.forall_mem_cons.mp hds
    have hrest := takes_digits (p := .whole) rfl hcs ⟨negative, [c], [], false, []⟩
    simp only [extend, ← List.reverse_cons] at hrest
    cases negative with
    | false =>
      have hminus : c ≠ '-' := by
        rintro rfl
        cases hdigit
      have hstart : start c = some (⟨false, [c], [], false, []⟩, .whole) := by
        simp only [start, hminus, hc, hdigit, ↓reduceIte]
      exact ⟨c, cs, _, _, .whole, rfl, hstart, hrest, .inr rfl⟩
    | true =>
      have hfirst : step ⟨true, [], [], false, []⟩ .minus c =
          .more ⟨true, [c], [], false, []⟩ .whole := by
        simp only [step, hc, hdigit, ↓reduceIte]
      exact ⟨'-', c :: cs, _, _, .whole, rfl, rfl, .cons hfirst hrest, .inr rfl⟩

theorem takes_fraction {p : Phase} (hp : p = .zero ∨ p = .whole) (negative : Bool)
    (whole : List Char) {ds : List Char} (hds : ∀ c ∈ ds, c.isDigit) :
    ∃ q, Takes ⟨negative, whole, [], false, []⟩ p (if ds = [] then [] else '.' :: ds)
        ⟨negative, whole, ds.reverse, false, []⟩ q ∧ (q = .zero ∨ q = .whole ∨ q = .fraction) := by
  cases ds with
  | nil => exact ⟨p, .nil _ _, hp.imp_right .inl⟩
  | cons c cs =>
    obtain ⟨hc, hcs⟩ := List.forall_mem_cons.mp hds
    have hrest := takes_digits (p := .fraction) rfl hcs ⟨negative, whole, [c], false, []⟩
    simp only [extend, ← List.reverse_cons] at hrest
    have hpoint : step ⟨negative, whole, [], false, []⟩ p '.' =
        .more ⟨negative, whole, [], false, []⟩ .point := by rcases hp with rfl | rfl <;> rfl
    have hfirst : step ⟨negative, whole, [], false, []⟩ .point c =
        .more ⟨negative, whole, [c], false, []⟩ .fraction := by
      simp only [step, hc, ↓reduceIte]
    exact ⟨.fraction, .cons hpoint (.cons hfirst hrest), .inr (.inr rfl)⟩

theorem takes_exponent {p : Phase} (hp : p = .zero ∨ p = .whole ∨ p = .fraction) (negative : Bool)
    (whole fraction : List Char) {ds : List Char} (hds : ∀ c ∈ ds, c.isDigit) {down : Bool}
    (h : ds = [] → down = false) :
    ∃ q, Takes ⟨negative, whole, fraction, false, []⟩ p
        (if ds = [] then [] else 'e' :: (if down then '-' else '+') :: ds)
        ⟨negative, whole, fraction, down, ds.reverse⟩ q ∧ q.complete := by
  cases ds with
  | nil =>
    refine ⟨p, ?_, by rcases hp with rfl | rfl | rfl <;> rfl⟩
    rw [h rfl]
    exact .nil _ _
  | cons c cs =>
    obtain ⟨hc, hcs⟩ := List.forall_mem_cons.mp hds
    have hrest := takes_digits (p := .exponent) rfl hcs ⟨negative, whole, fraction, down, [c]⟩
    simp only [extend, ← List.reverse_cons] at hrest
    have hmark : step ⟨negative, whole, fraction, false, []⟩ p 'e' =
        .more ⟨negative, whole, fraction, false, []⟩ .mark := by
      rcases hp with rfl | rfl | rfl <;> rfl
    have hsign : step ⟨negative, whole, fraction, false, []⟩ .mark (if down then '-' else '+') =
        .more ⟨negative, whole, fraction, down, []⟩ .markSign := by cases down <;> rfl
    have hfirst : step ⟨negative, whole, fraction, down, []⟩ .markSign c =
        .more ⟨negative, whole, fraction, down, [c]⟩ .exponent := by
      simp only [step, pushExponent, hc, ↓reduceIte]
    exact ⟨.exponent, .cons hmark (.cons hsign (.cons hfirst hrest)), rfl⟩

theorem takes_spell {n : Numeral} (h : n.WellFormed) :
    ∃ c cs m p q, n.spell = c :: cs ∧ start c = some (m, p) ∧ Takes m p cs n q ∧ q.complete := by
  obtain ⟨negative, ws, fs, down, es⟩ := n
  have hdigits : ∀ {ds : List Char}, (∀ c ∈ ds, c.isDigit) → ∀ c ∈ ds.reverse, c.isDigit :=
    fun hds c hc => hds c (List.mem_reverse.mp hc)
  have hleading : ws.reverse = ['0'] ∨ ∃ c cs, ws.reverse = c :: cs ∧ c ≠ '0' :=
    h.whole.imp_left (congrArg List.reverse)
  have hdown : es.reverse = [] → down = false := fun he => h.down (List.reverse_eq_nil_iff.mp he)
  obtain ⟨c, cs, m, p, q, htext, hstart, hwhole, hq⟩ :=
    takes_whole hleading (hdigits h.wholeDigits) negative
  obtain ⟨r, hfraction, hr⟩ :=
    takes_fraction hq negative ws.reverse.reverse (hdigits h.fraction)
  obtain ⟨s, hexponent, hs⟩ :=
    takes_exponent hr negative ws.reverse.reverse fs.reverse.reverse (hdigits h.exponent) hdown
  simp only [List.reverse_reverse, List.reverse_eq_nil_iff] at hwhole hfraction hexponent
  refine ⟨c, _, m, p, s, ?_, hstart, (hwhole.append hfraction).append hexponent, hs⟩
  rw [spell, htext, List.cons_append, List.cons_append]

theorem number?_decimal (negative : Bool) (n : Nat)
    (h : (Number.int (if negative then -n else n)).Fits) (hpos : negative → 0 < n) :
    number? ⟨negative, (decimal n).reverse, [], false, []⟩ =
      some (.int (if negative then -n else n)) := by
  have hlt : n < Nat.pow 2 64 := by
    cases negative <;>
      simp only [Number.Fits, Nat.pow_eq, Bool.false_eq_true, ↓reduceIte] at h ⊢ <;> omega
  have hread : significand 0 (decimal n) = (n, []) := by
    have hs := significand_of_lt (decimal n) 0 (by rwa [ofDigitChars_decimal])
    rwa [ofDigitChars_decimal] at hs
  have hsign : negative = false ∨ (0 < n ∧ n ≤ Nat.pow 2 63) := by
    cases negative with
    | false => exact .inl rfl
    | true =>
      right
      simp only [Number.Fits, Nat.pow_eq, ↓reduceIte] at h ⊢
      exact ⟨hpos rfl, by omega⟩
  simp only [number?, List.reverse_reverse, hread, List.isEmpty_nil, hsign, and_self, ↓reduceIte]

theorem number?_scaled {n : Numeral} {t : Nat}
    (hvalue : Nat.ofDigitChars 10 (n.whole.reverse ++ n.fraction.reverse) 0 = t) (ht : t < 2 ^ 64)
    (hparts : n.fraction ≠ [] ∨ n.exponent ≠ []) :
    n.number? = (scale? t (-n.fraction.length +
      if n.down then -(ofDecimal n.exponent.reverse : Int) else ofDecimal n.exponent.reverse)).map
        fun x => .double (if n.negative then -x else x) := by
  rw [Nat.ofDigitChars_append] at hvalue
  have hwhole := le_ofDigitChars n.fraction.reverse (Nat.ofDigitChars 10 n.whole.reverse 0)
  have hs := significand_of_lt n.whole.reverse 0 (by rw [Nat.pow_eq]; omega)
  have hf := significand_of_lt n.fraction.reverse _ (by rw [hvalue]; exact ht)
  have hfloat : ¬ (n.fraction.isEmpty ∧ n.exponent.isEmpty ∧ True ∧
      (n.negative = false ∨ (0 < Nat.ofDigitChars 10 n.whole.reverse 0 ∧
        Nat.ofDigitChars 10 n.whole.reverse 0 ≤ Nat.pow 2 63))) := by
    simp only [List.isEmpty_iff]
    tauto
  simp only [number?, hs, List.isEmpty_nil, hfloat, ↓reduceIte, hf, hvalue, List.length_nil]
  simp

end Numeral

namespace Number

def Spelled (cs : List Char) (x : Number) : Prop :=
  ∃ n : Numeral, n.WellFormed ∧ n.spell = cs ∧ n.number? = some x

def ReadAs (x y : Number) : Prop := Spelled x.chars y

theorem wellFormed_decimal (negative : Bool) (n : Nat) :
    Numeral.WellFormed ⟨negative, (decimal n).reverse, [], false, []⟩ := by
  refine ⟨?_, ?_, nofun, nofun, fun _ => rfl⟩
  · rcases Nat.eq_zero_or_pos n with rfl | hn
    · exact .inl rfl
    · right
      rw [List.reverse_reverse]
      exact decimal_eq_cons hn
  · intro c hc
    exact isDigit_decimal (List.mem_reverse.mp hc)

theorem readAs_int {n : Int} (h : (Number.int n).Fits) : ReadAs (.int n) (.int n) := by
  by_cases hn : n < 0
  · have hvalue : -(n.natAbs : Int) = n := by omega
    have hread := Numeral.number?_decimal true n.natAbs
    simp only [↓reduceIte, hvalue] at hread
    refine ⟨_, wellFormed_decimal true n.natAbs, ?_, hread h fun _ => by omega⟩
    simp [Numeral.spell, Number.chars, hn]
  · have hvalue : (n.natAbs : Int) = n := by omega
    have hread := Numeral.number?_decimal false n.natAbs
    simp only [Bool.false_eq_true, ↓reduceIte, hvalue] at hread
    refine ⟨_, wellFormed_decimal false n.natAbs, ?_, hread h nofun⟩
    simp [Numeral.spell, Number.chars, hn]

end Number

end Display3270
