import Display3270.Proofs.Json.Printing
import Display3270.Proofs.Number.Shortest

namespace Display3270

open Binary (Readable)

namespace Number

def SpelledFinite (cs : List Char) : Prop := ∃ y : Double, y.isFinite ∧ Spelled cs (.double y)

theorem spelledFinite_parts (negative : Bool) {ws fs es : List Char} {down : Bool}
    (hfirst : ws = ['0'] ∨ ∃ c cs, ws = c :: cs ∧ c ≠ '0') (hws : ∀ c ∈ ws, c.isDigit)
    (hfs : ∀ c ∈ fs, c.isDigit) (hes : ∀ c ∈ es, c.isDigit) (hdown : es = [] → down = false)
    (hparts : fs ≠ [] ∨ es ≠ []) (hfew : Nat.ofDigitChars 10 (ws ++ fs) 0 < 2 ^ 64)
    (hscale : (Numeral.scale? (Nat.ofDigitChars 10 (ws ++ fs) 0)
      (-fs.length + if down then -(ofDecimal es : Int) else ofDecimal es)).isSome) :
    SpelledFinite ((if negative then ['-'] else []) ++ ws ++ (if fs = [] then [] else '.' :: fs) ++
      if es = [] then [] else 'e' :: (if down then '-' else '+') :: es) := by
  let n : Numeral := ⟨negative, ws.reverse, fs.reverse, down, es.reverse⟩
  have hn : n.WellFormed := by
    refine ⟨?_, ?_, ?_, ?_, ?_⟩
    · rw [List.reverse_reverse]
      exact hfirst.imp_left (congrArg List.reverse)
    · exact fun c hc => hws c (List.mem_reverse.mp hc)
    · exact fun c hc => hfs c (List.mem_reverse.mp hc)
    · exact fun c hc => hes c (List.mem_reverse.mp hc)
    · exact fun h => hdown (List.reverse_eq_nil_iff.mp h)
  obtain ⟨x, hx⟩ := Option.isSome_iff_exists.mp hscale
  have hread := Numeral.number?_scaled (n := n) (by simp only [n, List.reverse_reverse]) hfew
    (by simpa [n] using hparts)
  simp only [n, List.length_reverse, List.reverse_reverse, hx, Option.map_some] at hread
  have hspell : n.spell = (if negative then ['-'] else []) ++ ws ++
      (if fs = [] then [] else '.' :: fs) ++
      if es = [] then [] else 'e' :: (if down then '-' else '+') :: es := by
    simp only [n, Numeral.spell, List.reverse_reverse, List.reverse_eq_nil_iff]
  exact ⟨_, Numeral.number?_fits hread, n, hn, hspell, hread⟩

theorem spelledFinite_point (negative : Bool) (ws fs : List Char)
    (hfirst : ws = ['0'] ∨ ∃ c cs, ws = c :: cs ∧ c ≠ '0') (hws : ∀ c ∈ ws, c.isDigit)
    (hfs : ∀ c ∈ fs, c.isDigit) (hne : fs ≠ [])
    (hfew : Nat.ofDigitChars 10 (ws ++ fs) 0 < 2 ^ 64) :
    SpelledFinite ((if negative then ['-'] else []) ++ ws ++ '.' :: fs) := by
  have hpos := List.length_pos_iff.mpr hne
  have hscale : (Numeral.scale? (Nat.ofDigitChars 10 (ws ++ fs) 0) (-fs.length +
      if false then -(ofDecimal [] : Int) else ofDecimal [])).isSome := by
    apply Numeral.scale?_down
    simp only [ofDecimal, Bool.false_eq_true, ↓reduceIte, List.foldl_nil]
    omega
  have hspelled := spelledFinite_parts negative hfirst hws hfs (List.forall_mem_nil _)
    (fun _ => rfl) (.inl hne) hfew hscale
  simpa only [hne, ↓reduceIte, List.append_nil] using hspelled

end Number

namespace PlainRange

open Number (SpelledFinite spelledFinite_parts spelledFinite_point)

variable {ds : List Char} {order : Int}

theorem isDigit_zeros (n : Nat) : ∀ a ∈ List.replicate n '0', a.isDigit := by
  intro a ha
  rw [List.eq_of_mem_replicate ha]
  rfl

theorem spelled_small (h : Readable ds order) (negative : Bool) (zeros : Nat) :
    SpelledFinite ((if negative then ['-'] else []) ++
      (['0', '.'] ++ List.replicate zeros '0' ++ ds)) := by
  obtain ⟨c, cs, hds, -⟩ := h.first
  have hdigits : ∀ a ∈ List.replicate zeros '0' ++ ds, a.isDigit :=
    List.forall_mem_append.mpr ⟨isDigit_zeros zeros, h.digits⟩
  have hvalue : Nat.ofDigitChars 10 (['0'] ++ (List.replicate zeros '0' ++ ds)) 0 =
      Nat.ofDigitChars 10 ds 0 := by
    rw [Nat.ofDigitChars_append, Nat.ofDigitChars_append]
    simp [Nat.ofDigitChars_cons]
  have hfew := h.few
  have hspelled := spelledFinite_point negative ['0'] _ (.inl rfl) isDigit_zero hdigits
    (by simp [hds]) (by rw [hvalue]; omega)
  simpa using hspelled

theorem spelled_filled (h : Readable ds order) (negative : Bool) {zeros : Nat}
    (hfew : ds.length + zeros ≤ 16) :
    SpelledFinite ((if negative then ['-'] else []) ++
      (ds ++ List.replicate zeros '0') ++ ['.', '0']) := by
  obtain ⟨c, cs, hds, hc⟩ := h.first
  have hfirst : ∃ a as, ds ++ List.replicate zeros '0' = a :: as ∧ a ≠ '0' :=
    ⟨c, cs ++ List.replicate zeros '0', by rw [hds]; rfl, hc⟩
  have hwhole : ∀ a ∈ ds ++ List.replicate zeros '0', a.isDigit :=
    List.forall_mem_append.mpr ⟨h.digits, isDigit_zeros zeros⟩
  have hall : ∀ a ∈ ds ++ List.replicate zeros '0' ++ ['0'], a.isDigit :=
    List.forall_mem_append.mpr ⟨hwhole, isDigit_zero⟩
  have hbound := ofDigitChars_lt hall 0
  have hpow : 10 ^ (ds ++ List.replicate zeros '0' ++ ['0']).length ≤ 10 ^ 17 := by
    apply Nat.pow_le_pow_right (by decide)
    simp only [List.length_append, List.length_replicate, List.length_singleton]
    omega
  exact spelledFinite_point negative _ ['0'] (.inr hfirst) hwhole isDigit_zero (by decide)
    (by omega)

theorem spelled_cut (h : Readable ds order) (negative : Bool) {k : Nat} (hk : k + 1 < ds.length) :
    SpelledFinite ((if negative then ['-'] else []) ++ ds.take (k + 1) ++
      '.' :: ds.drop (k + 1)) := by
  obtain ⟨c, cs, hds, hc⟩ := h.first
  have hfew := h.few
  have hfirst : ∃ a as, ds.take (k + 1) = a :: as ∧ a ≠ '0' :=
    ⟨c, cs.take k, by rw [hds, List.take_succ_cons], hc⟩
  have hdrop : ds.drop (k + 1) ≠ [] := by
    rw [ne_eq, List.drop_eq_nil_iff]
    omega
  exact spelledFinite_point negative _ _ (.inr hfirst)
    (fun a ha => h.digits a (List.mem_of_mem_take ha))
    (fun a ha => h.digits a (List.mem_of_mem_drop ha)) hdrop
    (by rw [List.take_append_drop]; omega)

theorem spelled_plain (h : Readable ds order) (negative : Bool) {whole : Nat} (hpos : 0 < whole)
    (hwhole : whole ≤ 16) :
    SpelledFinite ((if negative then ['-'] else []) ++
      (ds.take whole ++ List.replicate (whole - ds.length) '0' ++ ['.'] ++
        (if (ds.drop whole).isEmpty then ['0'] else ds.drop whole))) := by
  obtain ⟨k, rfl⟩ := Nat.exists_eq_succ_of_ne_zero hpos.ne'
  by_cases hlength : ds.length ≤ k + 1
  · have hspelled := spelled_filled h negative (by omega : ds.length + (k + 1 - ds.length) ≤ 16)
    simpa [List.take_of_length_le hlength, List.drop_of_length_le hlength] using hspelled
  · have hzero : k + 1 - ds.length = 0 := by omega
    have hspelled := spelled_cut h negative (Nat.lt_of_not_le hlength)
    simpa [hzero, hlength] using hspelled

theorem spelled_exponent (h : Readable ds order) (negative : Bool) :
    SpelledFinite ((if negative then ['-'] else []) ++
      (ds.take 1 ++ (if (ds.drop 1).isEmpty then [] else '.' :: ds.drop 1) ++ ['e'] ++
        [if order < 0 then '-' else '+'] ++ decimal order.natAbs)) := by
  obtain ⟨c, cs, hds, hc⟩ := h.first
  have hdigits := h.digits
  have hfew := h.few
  have hrange := h.inRange
  have hexponent : decimal order.natAbs ≠ [] := Nat.toDigits_ne_nil
  have hwhole : [c] ++ cs = ds := hds.symm
  obtain ⟨hdigit, hrest⟩ := List.forall_mem_cons.mp (hds ▸ hdigits)
  have hscale : (Numeral.scale? (Nat.ofDigitChars 10 ([c] ++ cs) 0) (-cs.length +
      if decide (order < 0) then -(ofDecimal (decimal order.natAbs) : Int)
      else ofDecimal (decimal order.natAbs))).isSome := by
    have hsigned : (-cs.length + if decide (order < 0) then
        -(ofDecimal (decimal order.natAbs) : Int) else ofDecimal (decimal order.natAbs)) =
        order - ds.length + 1 := by
      rw [ofDecimal_decimal, hds, List.length_cons]
      simp only [decide_eq_true_eq]
      split <;> omega
    rw [hsigned, hwhole]
    by_cases hdown : order - ds.length + 1 < 0
    · exact Numeral.scale?_down _ hdown
    · obtain ⟨k, hk⟩ := Int.eq_ofNat_of_zero_le (Int.not_lt.mp hdown)
      have hpos : 0 < Nat.ofDigitChars 10 ds 0 := hds ▸ ofDigitChars_pos hdigit hc cs
      rw [hk, zpow_natCast, Binary.worth_double] at hrange
      rw [hk]
      exact Numeral.scale?_up hpos hfew (by exact_mod_cast hrange)
  have hspelled := spelledFinite_parts negative (.inr ⟨c, [], rfl, hc⟩) (by simpa using hdigit)
    hrest (fun a ha => isDigit_decimal ha) (fun he => absurd he hexponent) (.inr hexponent)
    (by rw [hwhole]; omega) hscale
  simpa [hds, hexponent] using hspelled

theorem spelled_layout (range : PlainRange) (hrange : range.high ≤ 15) (h : Readable ds order)
    (negative : Bool) :
    SpelledFinite ((if negative then ['-'] else []) ++ range.layout ds order) := by
  rw [layout]
  by_cases hplain : range.low ≤ order ∧ order ≤ range.high
  · rw [if_pos hplain]
    by_cases hsmall : order < 0
    · rw [if_pos hsmall]
      exact spelled_small h negative _
    · rw [if_neg hsmall]
      exact spelled_plain h negative (by omega) (by omega)
  · rw [if_neg hplain]
    exact spelled_exponent h negative

end PlainRange

namespace Number

/-- The text of a finite value is read as a finite double, which may be another one. -/
theorem spelled_text {w : Width} (range : PlainRange) (hrange : range.high ≤ 15) (negative : Bool)
    {m : Nat} (hm : m < w.infinity)
    (h : 0 < m → Readable (Binary.shortest w m).1 (Binary.shortest w m).2) :
    ∃ cs, (Binary.signed negative m : Binary w).text? range = some cs ∧ SpelledFinite cs := by
  have hsign : ∀ cs : List Char,
      (if negative then '-' :: cs else cs) = (if negative then ['-'] else []) ++ cs := by
    cases negative <;> simp
  rw [Binary.text?, if_neg (Nat.not_le.mpr hm)]
  refine ⟨_, rfl, ?_⟩
  rw [hsign]
  by_cases hzero : m = 0
  · rw [if_pos hzero]
    have hspelled := spelledFinite_point negative ['0'] ['0'] (.inl rfl)
      isDigit_zero isDigit_zero (by decide) (by decide)
    rwa [List.append_assoc] at hspelled
  · rw [if_neg hzero]
    exact PlainRange.spelled_layout range hrange (h (Nat.pos_of_ne_zero hzero)) negative

theorem readAs_double {x : Double} (h : x.isFinite) :
    ∃ y : Double, y.isFinite ∧ ReadAs (.double x) (.double y) := by
  cases x with
  | nan => cases h
  | signed s m =>
    have hm : m < Width.double.infinity := of_decide_eq_true h
    obtain ⟨cs, htext, hspelled⟩ := spelled_text .double (by decide) s hm
      fun hpos => Binary.shortest_double hpos hm
    have hchars : chars (.double (.signed s m)) = cs := by rw [chars, htext, Option.getD_some]
    obtain ⟨y, hy, hread⟩ := hspelled
    exact ⟨y, hy, by rwa [ReadAs, hchars]⟩

theorem readAs_single {x : Single} (h : x.isFinite) :
    ∃ y : Double, y.isFinite ∧ ReadAs (.single x) (.double y) := by
  cases x with
  | nan => cases h
  | signed s m =>
    have hm : m < Width.single.infinity := of_decide_eq_true h
    obtain ⟨cs, htext, hspelled⟩ := spelled_text .single (by decide) s hm
      fun hpos => Binary.shortest_single hpos hm
    have hchars : chars (.single (.signed s m)) = cs := by rw [chars, htext, Option.getD_some]
    obtain ⟨y, hy, hread⟩ := hspelled
    exact ⟨y, hy, by rwa [ReadAs, hchars]⟩

end Number

namespace Json

theorem double_eq {x : Double} (h : x.isFinite) : double x = .num (.double x) := if_pos h

theorem readAs_double {x : Double} (h : x.isFinite) :
    ∃ y : Double, y.isFinite ∧ (double x).ReadAs (double y) := by
  obtain ⟨y, hy, hread⟩ := Number.readAs_double h
  refine ⟨y, hy, ?_⟩
  rw [double_eq h, double_eq hy]
  exact .num hread

theorem readAs_single (x : Single) : ∃ z, (single x).ReadAs z ∧ z.depth = 0 ∧
    (x.isFinite → ∃ y : Double, z = .num (.double y)) ∧ (x.isFinite = false → z = .null) := by
  cases h : x.isFinite with
  | true =>
    obtain ⟨y, -, hread⟩ := Number.readAs_single h
    refine ⟨.num (.double y), ?_, rfl, fun _ => ⟨y, rfl⟩, nofun⟩
    rw [single, if_pos h]
    exact .num hread
  | false =>
    refine ⟨.null, ?_, rfl, nofun, fun _ => rfl⟩
    simp only [single, h, Bool.false_eq_true, ↓reduceIte]
    exact .null

end Json

end Display3270
