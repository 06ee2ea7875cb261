import Mathlib.Data.List.Basic
import Display3270.LogFilter.Pattern

namespace Display3270

namespace PatternToken

theorem scan_zero (code : Nat) (cs : List Char) : scan 0 code cs = scan 0 0 cs := by
  cases cs with
  | nil => rfl
  | cons c cs =>
    by_cases hc : c = '\\'
    · subst hc
      cases cs <;> rfl
    · simp [scan, hc]

theorem scan_append {left code : Nat} {a : List Char} {ts : List PatternToken}
    (h : scan left code a = some ts) (b : List Char) :
    scan left code (a ++ b) = (scan 0 0 b).map (ts ++ ·) := by
  fun_induction scan left code a generalizing ts with
  | case1 code =>
    obtain rfl := Option.some.inj h
    simp [scan_zero code]
  | case2 | case6 => contradiction
  | case3 code c cs digits hdigits ih =>
    simp only [List.cons_append, scan, hdigits]
    exact ih h
  | case4 code c cs hdigits ih =>
    obtain ⟨t, ht, rest, hrest, rfl⟩ : ∃ t, escape? c = some t ∧
        ∃ rest, scan 0 0 cs = some rest ∧ t :: rest = ts := by
      simpa [Option.bind_eq_some_iff] using h
    simp only [List.cons_append, scan, hdigits, ht, ih hrest]
    cases scan 0 0 b <;> rfl
  | case5 code c cs hlast hescape ih =>
    obtain ⟨rest, hrest, rfl⟩ := Option.map_eq_some_iff.mp h
    have hplain : c ≠ '\\' := by
      rintro rfl
      cases cs with
      | nil => exact hlast rfl rfl
      | cons d cs => exact hescape d cs rfl rfl
    simp [scan, hplain, ih hrest, Function.comp_def]
  | case7 left code c cs ihrest ih =>
    simp only [List.cons_append, scan] at h ⊢
    obtain ⟨digit, hdigit, h⟩ := Option.bind_eq_some_iff.mp h
    simp only [hdigit, Option.bind_eq_bind, Option.bind_some]
    by_cases hleft : left = 0
    · simp only [hleft, if_true] at h ⊢
      by_cases hvalid : (16 * code + digit).isValidChar
      · simp only [hvalid, if_true] at h ⊢
        obtain ⟨rest, hrest, hts⟩ := Option.bind_eq_some_iff.mp h
        obtain rfl := Option.some.inj hts
        rw [ihrest hrest]
        cases scan 0 0 b <;> rfl
      · simp [hvalid] at h
    · simp only [hleft, if_false] at h ⊢
      exact ih digit h

end PatternToken

namespace PatternState

def inside (s : PatternState) (outer : List Bool) : PatternState :=
  ⟨s.repeatable, s.folds, s.outer ++ outer, s.names⟩

theorem closed?_inside {s t : PatternState} (h : s.closed? = some t) (outer : List Bool) :
    (s.inside outer).closed? = some (t.inside outer) := by
  cases hs : s.outer with
  | nil => simp [closed?, hs] at h
  | cons folds rest =>
    obtain rfl : ⟨true, folds, rest, s.names⟩ = t := by simpa [closed?, hs] using h
    simp [closed?, inside, hs]

theorem named?_inside (s : PatternState) (name : List Char) (outer : List Bool) :
    (s.inside outer).named? name = (s.named? name).map (·.inside outer) := by
  by_cases hnew : (name.isEmpty || s.names.contains name) = true
  · rw [named?, named?, if_pos hnew]
    exact if_pos hnew
  · rw [named?, named?, if_neg hnew]
    exact if_neg hnew

end PatternState

namespace PatternPoint

def inside (p : PatternPoint) (outer : List Bool) : PatternPoint := (p.1, p.2.inside outer)

theorem ofItem_inside {s : PatternState} {t : PatternToken} {q : PatternPoint}
    (h : ofItem s t = some q) (outer : List Bool) :
    ofItem (s.inside outer) t = some (q.inside outer) := by
  by_cases hclose : t = .plain ')'
  · subst hclose
    obtain ⟨s', hs', rfl⟩ := Option.map_eq_some_iff.mp h
    simp [ofItem, PatternState.closed?_inside hs', inside]
  · have heq : ofItem (s.inside outer) t = (ofItem s t).map (·.inside outer) := by
      obtain ⟨repeatable, folds, groups, names⟩ := s
      unfold ofItem
      split
      case h_2 => exact absurd rfl hclose
      all_goals cases repeatable <;> cases folds <;> rfl
    rw [heq, h]
    rfl

theorem ofNamePart_inside (s : PatternState) (name : List Char) (t : PatternToken)
    (outer : List Bool) :
    ofNamePart (s.inside outer) name t = (ofNamePart s name t).map (·.inside outer) := by
  unfold ofNamePart
  split
  · rw [PatternState.named?_inside]
    cases s.named? name <;> rfl
  · split <;> rfl
  · rfl

theorem ofFlag_inside (s : PatternState) (seen : List Char) (t : PatternToken)
    (outer : List Bool) :
    ofFlag (s.inside outer) seen t = (ofFlag s seen t).map (·.inside outer) := by
  unfold ofFlag
  split
  all_goals first
    | rfl
    | (split <;> rfl)

theorem ofClassItem_inside (s : PatternState) (depth : Nat) (t : PatternToken)
    (outer : List Bool) :
    ofClassItem (s.inside outer) depth t = (ofClassItem s depth t).map (·.inside outer) := by
  unfold ofClassItem
  split
  case h_2 => cases depth <;> rfl
  case h_6 => cases t.char? <;> rfl
  all_goals rfl

theorem ofLead_inside (s : PatternState) (depth : Nat) (bare : Bool) (t : PatternToken)
    (outer : List Bool) :
    ofLead (s.inside outer) depth bare t = (ofLead s depth bare t).map (·.inside outer) := by
  unfold ofLead
  split
  · rfl
  · split
    · rfl
    · exact ofClassItem_inside s depth _ outer
  · exact ofClassItem_inside s depth _ outer

theorem ofAfter_inside (s : PatternState) (depth : Nat) (c : Char) (t : PatternToken)
    (outer : List Bool) :
    ofAfter (s.inside outer) depth c t = (ofAfter s depth c t).map (·.inside outer) := by
  unfold ofAfter
  split
  · rfl
  · exact ofClassItem_inside s depth t outer

theorem ofRange_inside (s : PatternState) (depth : Nat) (c : Char) (t : PatternToken)
    (outer : List Bool) :
    ofRange (s.inside outer) depth c t = (ofRange s depth c t).map (·.inside outer) := by
  unfold ofRange
  split
  · exact ofClassItem_inside s depth _ outer
  · rfl
  · split
    · split <;> rfl
    · rfl

theorem some_inside {a b : Option PatternPoint} {q : PatternPoint} {outer : List Bool}
    (h : b = a.map (·.inside outer)) (ha : a = some q) : b = some (q.inside outer) := by
  rw [h, ha]
  rfl

theorem ite_inside {c : Prop} [Decidable c] {a b x y : Option PatternPoint} {outer : List Bool}
    (hx : x = a.map (·.inside outer)) (hy : y = b.map (·.inside outer)) :
    (if c then x else y) = (if c then a else b).map (·.inside outer) := by
  rw [hx, hy]
  split <;> rfl

theorem next_inside {p q : PatternPoint} {t : PatternToken} (h : p.next t = some q)
    (outer : List Bool) : (p.inside outer).next t = some (q.inside outer) := by
  obtain ⟨place, s⟩ := p
  cases place with
  | items => exact ofItem_inside h outer
  | group =>
    simp only [next, inside] at h ⊢
    split at h
    case isTrue hmark =>
      obtain rfl := Option.some.inj h
      exact if_pos hmark
    case isFalse hmark =>
      rw [if_neg hmark]
      exact ofItem_inside h outer
  | groupKind => exact some_inside (ite_inside rfl (ite_inside rfl (ofFlag_inside s [] t outer))) h
  | groupP => exact some_inside (ite_inside rfl rfl) h
  | groupName name => exact some_inside (ofNamePart_inside s name t outer) h
  | flags seen => exact some_inside (ofFlag_inside s seen t outer) h
  | classStart depth => exact some_inside (ite_inside rfl (ofLead_inside s depth true t outer)) h
  | classLead depth bare => exact some_inside (ofLead_inside s depth bare t outer) h
  | classItems depth => exact some_inside (ofClassItem_inside s depth t outer) h
  | classSign depth c => exact some_inside (ite_inside rfl (ofAfter_inside s depth c t outer)) h
  | classAfter depth c => exact some_inside (ofAfter_inside s depth c t outer) h
  | classRange depth c => exact some_inside (ofRange_inside s depth c t outer) h

theorem run_inside {p q : PatternPoint} {ts : List PatternToken}
    (h : ts.foldlM next p = some q) (outer : List Bool) :
    ts.foldlM next (p.inside outer) = some (q.inside outer) := by
  induction ts generalizing p with
  | nil =>
    obtain rfl := Option.some.inj h
    rfl
  | cons t ts ih =>
    obtain ⟨mid, hmid, hrest⟩ := Option.bind_eq_some_iff.mp h
    exact Option.bind_eq_some_iff.mpr ⟨mid.inside outer, next_inside hmid outer, ih hrest⟩

end PatternPoint

theorem isPattern_iff {cs : List Char} :
    isPattern cs = true ↔ ∃ ts s, PatternToken.ofText? cs = some ts ∧
      ts.foldlM PatternPoint.next (.items, .initial) = some (.items, s) ∧ s.outer = [] := by
  constructor
  · intro h
    rw [isPattern] at h
    split at h
    case h_1 => contradiction
    case h_2 ts hts =>
      cases hrun : ts.foldlM PatternPoint.next (.items, .initial) with
      | none => simp [hrun] at h
      | some q =>
        obtain ⟨place, s⟩ := q
        rw [hrun, Option.any_some] at h
        cases place with
        | items => exact ⟨ts, s, hts, hrun, List.isEmpty_iff.mp h⟩
        | _ => contradiction
  · rintro ⟨ts, s, hts, hrun, houter⟩
    simp [isPattern, hts, hrun, PatternPoint.isWhole, houter]

def isLiteral (c : Char) : Bool := !"\\()|[\x7b?*+.^$".toList.contains c

theorem scan_plain {cs : List Char} (h : '\\' ∉ cs) :
    PatternToken.scan 0 0 cs = some (cs.map .plain) := by
  induction cs with
  | nil => rfl
  | cons c cs ih =>
    obtain ⟨hslash, hrest⟩ := not_or.mp (mt List.mem_cons.mpr h)
    simp [PatternToken.scan, Ne.symm hslash, ih hrest]

theorem run_literals {cs : List Char} (h : ∀ c ∈ cs, isLiteral c = true) {s : PatternState}
    (hfolds : s.folds = false) :
    ∃ t, (cs.map PatternToken.plain).foldlM PatternPoint.next (.items, s) = some (.items, t) ∧
      t.outer = s.outer := by
  induction cs generalizing s with
  | nil => exact ⟨s, rfl, rfl⟩
  | cons c cs ih =>
    obtain ⟨hc, hcs⟩ := List.forall_mem_cons.mp h
    have hstep : PatternPoint.next (.items, s) (.plain c) = some (.items, s.item) := by
      simp only [isLiteral, Bool.not_eq_true', List.contains_eq_mem, decide_eq_false_iff_not] at hc
      simp at hc
      simp [PatternPoint.next, PatternPoint.ofItem, hfolds, hc]
    obtain ⟨t, hrun, houter⟩ := ih hcs (s := s.item) hfolds
    exact ⟨t, Option.bind_eq_some_iff.mpr ⟨_, hstep, hrun⟩, houter⟩

theorem isPattern_literals {cs : List Char} (h : ∀ c ∈ cs, isLiteral c = true) :
    isPattern cs = true := by
  obtain ⟨t, hrun, houter⟩ := run_literals h (s := .initial) rfl
  have hslash : '\\' ∉ cs := fun hmem => absurd (h _ hmem) (by decide)
  exact isPattern_iff.mpr ⟨_, t, scan_plain hslash, hrun, houter⟩

theorem run_group {ts : List PatternToken} {q : PatternPoint} {t : PatternToken}
    (h : ts.foldlM PatternPoint.next (.items, .initial) = some q) (ht : t ≠ .plain '?') :
    (ts ++ [t]).foldlM PatternPoint.next (.group, .initial) = (q.inside [false]).next t := by
  have hopened : PatternState.initial.opened false = PatternState.initial.inside [false] := rfl
  have hstart : ∀ u : PatternToken, u ≠ .plain '?' →
      PatternPoint.next (.group, .initial) u =
        PatternPoint.next (PatternPoint.inside (.items, .initial) [false]) u :=
    fun u hu => if_neg hu
  have hrun := PatternPoint.run_inside h [false]
  cases ts with
  | nil =>
    obtain rfl := Option.some.inj h
    rw [List.nil_append, List.foldlM_cons, hstart t ht]
    exact bind_pure _
  | cons u ts =>
    have hu : u ≠ .plain '?' := by
      rintro rfl
      contradiction
    rw [List.cons_append, List.foldlM_cons, hstart u hu, ← List.foldlM_cons, ← List.cons_append,
      List.foldlM_append, hrun]
    exact bind_pure ((q.inside [false]).next t)

theorem run_signs {signs : List Char} (h : ∀ c ∈ signs, c = '?' ∨ c = '*' ∨ c = '+')
    {s : PatternState} (hs : s.repeatable = true) :
    (signs.map PatternToken.plain).foldlM PatternPoint.next (.items, s) = some (.items, s) := by
  induction signs with
  | nil => rfl
  | cons c signs ih =>
    obtain ⟨hc, hrest⟩ := List.forall_mem_cons.mp h
    have hstep : PatternPoint.next (.items, s) (.plain c) = some (.items, s) := by
      rcases hc with rfl | rfl | rfl <;> exact if_pos hs
    exact Option.bind_eq_some_iff.mpr ⟨_, hstep, ih hrest⟩

theorem isPattern_group {cs signs : List Char} (h : isPattern cs = true)
    (hsigns : ∀ c ∈ signs, c = '?' ∨ c = '*' ∨ c = '+') :
    isPattern ('(' :: (cs ++ ')' :: signs)) = true := by
  obtain ⟨ts, s, hts, hrun, houter⟩ := isPattern_iff.mp h
  let closed : PatternState := ⟨true, false, [], s.names⟩
  have hclosed : PatternPoint.next (PatternPoint.inside (.items, s) [false]) (.plain ')') =
      some (.items, closed) := by
    simp [PatternPoint.next, PatternPoint.inside, PatternState.inside, houter, closed,
      PatternPoint.ofItem, PatternState.closed?]
  have hscan : PatternToken.scan 0 0 (')' :: signs) = some ((')' :: signs).map .plain) := by
    apply scan_plain
    intro hmem
    rcases List.mem_cons.mp hmem with hbracket | hsign
    · exact absurd hbracket (by decide)
    · rcases hsigns _ hsign with hsign | hsign | hsign <;> exact absurd hsign (by decide)
  have htext : PatternToken.ofText? ('(' :: (cs ++ ')' :: signs)) =
      some (.plain '(' :: (ts ++ (')' :: signs).map .plain)) := by
    have hrest := PatternToken.scan_append hts (')' :: signs)
    rw [hscan, Option.map_some] at hrest
    simp [PatternToken.ofText?, PatternToken.scan, hrest]
  -- the group is read inside, closed, and then stands for one item
  refine isPattern_iff.mpr ⟨_, closed, htext, ?_, rfl⟩
  have hgroup := run_group hrun (t := .plain ')') (by decide)
  rw [hclosed] at hgroup
  rw [List.map_cons, List.append_cons, List.foldlM_cons]
  refine Option.bind_eq_some_iff.mpr ⟨(.group, .initial), rfl, ?_⟩
  rw [List.foldlM_append, hgroup]
  exact run_signs hsigns rfl

example : isPattern "(term|lu[0-9]+)?".toList = true := by decide +kernel

end Display3270
