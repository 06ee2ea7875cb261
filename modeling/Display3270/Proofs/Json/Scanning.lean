import Display3270.Proofs.Json.Numerals
import Display3270.Text.Blank

namespace Display3270

namespace Numeral

theorem step_return (n : Numeral) (p : Phase) :
    n.step p '\r' = if p.complete then .ends else .wrong := by
  cases p <;> rfl

end Numeral

theorem Spelling.step_return (q p : Spelling) : q.step '\r' ≠ .ends p := by
  unfold step
  cases q.within with
  | hex high count code =>
    have hx : hexValue '\r' = none := by decide
    simp only [hx, shortStep]
    split <;> simp
  | short bytes =>
    simp only [shortStep]
    split <;> simp
  | _ => simp [plainStep, escapeStep, unpaired]

namespace Draft

inductive Fits : Draft → Prop
  | null : Fits .null
  | bool (b : Bool) : Fits (.bool b)
  | num {n : Number} (h : n.Fits) : Fits (.num n)
  | str (s : String) : Fits (.str s)
  | arr {items : List Draft} (f : Option Fault) (h : ∀ d ∈ items, Fits d) : Fits (.arr items f)
  | obj {members : List (Option String × Draft)} (f : Option Fault) (h : ∀ m ∈ members, Fits m.2) :
      Fits (.obj members f)
  | fault (f : Fault) : Fits (.fault f)

def Fails (d : Draft) : Prop := ∀ limit, ∃ e, d.value limit = .error e

theorem fails_fault (f : Fault) : Fails (.fault f) := fun _ => ⟨f.read, by rw [value]⟩

theorem values_of_fails {d : Draft} (hd : d.Fails) {items : List Draft} (h : d ∈ items)
    (limit : Option Nat) : ∃ e, values limit items = .error e := by
  induction items with
  | nil => cases h
  | cons x xs ih =>
    rw [values]
    cases hx : x.value limit with
    | error e => exact ⟨e, rfl⟩
    | ok y =>
      rcases List.mem_cons.mp h with rfl | h
      · obtain ⟨e, he⟩ := hd limit
        rw [hx] at he
        cases he
      · obtain ⟨e, he⟩ := ih h
        exact ⟨e, by rw [he]; rfl⟩

theorem memberValues_of_fails {m : Option String × Draft} (hd : m.2.Fails)
    {members : List (Option String × Draft)} (h : m ∈ members) (limit : Option Nat) :
    ∃ e, memberValues limit members = .error e := by
  induction members with
  | nil => cases h
  | cons x xs ih =>
    obtain ⟨k, d⟩ := x
    cases k with
    | none => exact ⟨_, rfl⟩
    | some k =>
      rw [memberValues]
      cases hx : d.value limit with
      | error e => exact ⟨e, rfl⟩
      | ok y =>
        rcases List.mem_cons.mp h with rfl | h
        · obtain ⟨e, he⟩ := hd limit
          rw [hx] at he
          cases he
        · obtain ⟨e, he⟩ := ih h
          exact ⟨e, by rw [he]; rfl⟩

theorem fails_arr_of_mem {d : Draft} (hd : d.Fails) {items : List Draft} (h : d ∈ items)
    (f : Option Fault) : Fails (.arr items f) := by
  intro limit
  rw [value]
  split
  case isTrue => exact ⟨_, rfl⟩
  case isFalse =>
    obtain ⟨e, he⟩ := values_of_fails hd h (limit.map (· - 1))
    exact ⟨e, by rw [he]; rfl⟩

theorem fails_obj_of_mem {m : Option String × Draft} (hd : m.2.Fails)
    {members : List (Option String × Draft)} (h : m ∈ members) (f : Option Fault) :
    Fails (.obj members f) := by
  intro limit
  rw [value]
  split
  case isTrue => exact ⟨_, rfl⟩
  case isFalse =>
    obtain ⟨e, he⟩ := memberValues_of_fails hd h (limit.map (· - 1))
    exact ⟨e, by rw [he]; rfl⟩

theorem fails_arr_fault (items : List Draft) (f : Fault) : Fails (.arr items (some f)) := by
  intro limit
  rw [value]
  split
  case isTrue => exact ⟨_, rfl⟩
  case isFalse =>
    cases h : values (limit.map (· - 1)) items with
    | error e => exact ⟨e, rfl⟩
    | ok xs => exact ⟨f.read, rfl⟩

theorem fails_obj_fault (members : List (Option String × Draft)) (f : Fault) :
    Fails (.obj members (some f)) := by
  intro limit
  rw [value]
  split
  case isTrue => exact ⟨_, rfl⟩
  case isFalse =>
    cases h : memberValues (limit.map (· - 1)) members with
    | error e => exact ⟨e, rfl⟩
    | ok xs => exact ⟨f.read, rfl⟩

namespace Scanner

theorem fails_wrap (st : List Frame) {d : Draft} (hd : d.Fails) : (wrap st d).Fails := by
  induction st generalizing d with
  | nil => exact hd
  | cons frame st ih =>
    cases frame with
    | items done => exact ih (fails_arr_of_mem hd (by simp) none)
    | members done key => exact ih (fails_obj_of_mem (m := (key, d)) hd (by simp) none)

def FrameSound : Frame → Prop
  | .items done => ∀ d ∈ done, d.Fits
  | .members done _ => ∀ m ∈ done, m.2.Fits

def ModeSound : Mode → Prop
  | .afterItem done => ∀ d ∈ done, d.Fits
  | .key done | .colon done _ | .afterMember done | .keyString done _ => ∀ m ∈ done, m.2.Fits
  | .word rest result => '\r' ∉ rest ∧ result.Fits
  | .finished d _ => d.Fits
  | .broken d => d.Fails
  | _ => True

structure Sound (s : Scanner) : Prop where
  stack : ∀ frame ∈ s.stack, FrameSound frame
  mode : ModeSound s.mode

theorem sound_start : start.Sound := ⟨by simp [start], trivial⟩

theorem sound_breakAt (st : List Frame) {d : Draft} (hd : d.Fails) : (breakAt st d).Sound :=
  ⟨by simp [breakAt], fails_wrap st hd⟩

theorem sound_wrong (st : List Frame) : (wrong st).Sound := sound_breakAt st (fails_fault _)

theorem sound_deliver {st : List Frame} (hst : ∀ frame ∈ st, FrameSound frame) {d : Draft}
    (hd : d.Fits) : (deliver d st).Sound := by
  cases st with
  | nil => exact ⟨hst, hd⟩
  | cons frame st =>
    obtain ⟨hframe, hrest⟩ := List.forall_mem_cons.mp hst
    cases frame with
    | items done => exact ⟨hrest, List.forall_mem_cons.mpr ⟨hd, hframe⟩⟩
    | members done key => exact ⟨hrest, List.forall_mem_cons.mpr ⟨hd, hframe⟩⟩

theorem sound_begin {st : List Frame} (hst : ∀ frame ∈ st, FrameSound frame) (c : Char) :
    (begin st c).Sound := by
  unfold begin
  split
  · exact ⟨hst, trivial⟩
  split
  · exact ⟨hst, trivial⟩
  split
  · exact ⟨hst, trivial⟩
  split
  · exact ⟨hst, by decide, .null⟩
  split
  · exact ⟨hst, by decide, .bool true⟩
  split
  · exact ⟨hst, by decide, .bool false⟩
  split
  · exact ⟨hst, trivial⟩
  · exact sound_wrong st

theorem fits_numeral (n : Numeral) : n.draft.Fits := by
  unfold Numeral.draft
  cases h : n.number? with
  | none => exact .fault _
  | some x => exact .num (Numeral.number?_fits h)

theorem fits_spelling (q : Spelling) : q.draft.Fits := by
  unfold Spelling.draft
  cases q.text? with
  | none => exact .fault _
  | some t => exact .str t

theorem sound_stepOutside {s : Scanner} (h : s.Sound) (c : Char) : (stepOutside s c).Sound := by
  obtain ⟨st, mode⟩ := s
  obtain ⟨hst, hm⟩ := h
  cases mode with
  | value =>
    simp only [stepOutside]
    split
    · exact ⟨hst, trivial⟩
    · exact sound_begin hst c
  | itemOrEnd =>
    simp only [stepOutside]
    split
    · exact ⟨hst, trivial⟩
    split
    · exact sound_deliver hst (.arr none (by simp))
    · exact sound_begin (List.forall_mem_cons.mpr ⟨by simp [FrameSound], hst⟩) c
  | afterItem done =>
    simp only [stepOutside]
    split
    · exact ⟨hst, hm⟩
    split
    · exact ⟨List.forall_mem_cons.mpr ⟨hm, hst⟩, trivial⟩
    split
    · exact sound_deliver hst (.arr none fun d hd => hm d (List.mem_reverse.mp hd))
    · exact sound_breakAt st (fails_arr_fault _ _)
  | keyOrEnd =>
    simp only [stepOutside]
    split
    · exact ⟨hst, trivial⟩
    split
    · exact sound_deliver hst (.obj none (by simp))
    split
    · exact ⟨hst, by simp [ModeSound]⟩
    · exact sound_breakAt st (fails_obj_fault _ _)
  | key done =>
    simp only [stepOutside]
    split
    · exact ⟨hst, hm⟩
    split
    · exact ⟨hst, hm⟩
    · exact sound_breakAt st (fails_obj_fault _ _)
  | colon done key =>
    simp only [stepOutside]
    split
    · exact ⟨hst, hm⟩
    split
    · exact ⟨List.forall_mem_cons.mpr ⟨hm, hst⟩, trivial⟩
    · exact sound_wrong _
  | afterMember done =>
    simp only [stepOutside]
    split
    · exact ⟨hst, hm⟩
    split
    · exact ⟨hst, hm⟩
    split
    · exact sound_deliver hst (.obj none fun m hd => hm m (List.mem_reverse.mp hd))
    · exact sound_breakAt st (fails_obj_fault _ _)
  | word rest result =>
    cases rest with
    | nil => exact ⟨hst, hm⟩
    | cons r rs =>
      simp only [stepOutside]
      split
      · exact sound_wrong st
      split
      · exact sound_deliver hst hm.2
      · exact ⟨hst, fun hr => hm.1 (List.mem_cons_of_mem r hr), hm.2⟩
  | number n p => exact ⟨hst, hm⟩
  | string q =>
    simp only [stepOutside]
    split
    · exact ⟨hst, trivial⟩
    · exact sound_deliver hst (fits_spelling _)
    · exact sound_breakAt st (fails_fault _)
  | keyString done q =>
    simp only [stepOutside]
    split
    · exact ⟨hst, hm⟩
    · exact ⟨hst, hm⟩
    · exact sound_breakAt st (fails_obj_fault _ _)
  | finished d trailing =>
    simp only [stepOutside]
    split
    · exact ⟨hst, hm⟩
    · exact ⟨hst, hm⟩
  | broken d => exact ⟨hst, hm⟩

theorem sound_step {s : Scanner} (h : s.Sound) (c : Char) : (s.step c).Sound := by
  unfold step
  split
  · split
    · exact ⟨h.stack, trivial⟩
    · exact sound_stepOutside (sound_deliver h.stack (fits_numeral _)) c
    · exact sound_wrong _
  · exact sound_stepOutside h c

theorem sound_steps (cs : List Char) {s : Scanner} (h : s.Sound) : (cs.foldl step s).Sound := by
  induction cs generalizing s with
  | nil => exact h
  | cons c cs ih => exact ih (sound_step h c)

theorem fails_cutOff {st : List Frame} {mode : Mode} (hm : ModeSound mode)
    (hf : ∀ d trailing, mode ≠ .finished d trailing) : (cutOff ⟨st, mode⟩).Fails := by
  cases mode with
  | value => exact fails_wrap st (fails_fault _)
  | itemOrEnd => exact fails_wrap st (fails_arr_fault _ _)
  | afterItem done => exact fails_wrap st (fails_arr_fault _ _)
  | keyOrEnd => exact fails_wrap st (fails_obj_fault _ _)
  | key done => exact fails_wrap st (fails_obj_fault _ _)
  | colon done key => exact fails_wrap _ (fails_fault _)
  | afterMember done => exact fails_wrap st (fails_obj_fault _ _)
  | word rest result => exact fails_wrap st (fails_fault _)
  | number n p => exact fails_wrap st (fails_fault _)
  | string q => exact fails_wrap st (fails_fault _)
  | keyString done q => exact fails_wrap st (fails_obj_fault _ _)
  | finished d trailing => exact absurd rfl (hf d trailing)
  | broken d => exact hm

theorem finish_deliver (d : Draft) (st : List Frame) (n : Numeral) (p : Numeral.Phase)
    (hd : n.draft = d) (hp : p.complete) : (deliver d st).finish = finish ⟨st, .number n p⟩ := by
  subst hd
  unfold finish
  cases st with
  | nil => simp only [hp, deliver, ↓reduceIte]
  | cons frame st => cases frame <;> simp only [hp, deliver, ↓reduceIte]

theorem stepOutside_deliver_return (d : Draft) (st : List Frame) :
    stepOutside (deliver d st) '\r' = deliver d st := by
  cases st with
  | nil => rfl
  | cons frame st => cases frame <;> rfl

theorem finish_step_return {s : Scanner} (h : s.Sound) :
    (s.step '\r').finish = s.finish ∨ (s.step '\r').finish.1.Fails ∧ s.finish.1.Fails := by
  obtain ⟨st, mode⟩ := s
  cases mode with
  | number n p =>
    by_cases hp : p.complete
    · left
      simp only [step, n.step_return p, hp, ↓reduceIte]
      rw [stepOutside_deliver_return]
      exact finish_deliver _ st n p rfl hp
    · right
      simp only [step, n.step_return p, finish, hp]
      exact ⟨fails_wrap st (fails_fault _), fails_wrap st (fails_fault _)⟩
  | word rest result =>
    cases rest with
    | nil => exact .inl rfl
    | cons r rs =>
      right
      have hr : '\r' ≠ r := fun he => h.mode.1 (he ▸ List.mem_cons_self)
      simp only [step, stepOutside, ne_eq, hr, not_false_eq_true, ↓reduceIte]
      exact ⟨fails_wrap st (fails_fault _), fails_wrap st (fails_fault _)⟩
  | string q =>
    right
    refine ⟨?_, fails_wrap st (fails_fault _)⟩
    simp only [step, stepOutside]
    cases hq : q.step '\r' with
    | more p => exact fails_wrap st (fails_fault _)
    | ends p => exact absurd hq (q.step_return p)
    | wrong p => exact fails_wrap st (fails_fault _)
  | keyString done q =>
    right
    refine ⟨?_, fails_wrap st (fails_obj_fault _ _)⟩
    simp only [step, stepOutside]
    cases hq : q.step '\r' with
    | more p => exact fails_wrap st (fails_obj_fault _ _)
    | ends p => exact absurd hq (q.step_return p)
    | wrong p => exact fails_wrap st (fails_obj_fault _ _)
  | _ => exact .inl rfl

def Empty (s : Scanner) : Prop := s = start ∨ ∃ d, s = ⟨[], .broken d⟩ ∧ d.Fails

theorem begin_blank {c : Char} (hb : isBlank c) (st : List Frame) : begin st c = wrong st := by
  have hne (a : Char) (ha : isBlank a = false) : c ≠ a := by
    rintro rfl
    rw [ha] at hb
    cases hb
  have hdigit : c.isDigit = false := by
    cases hd : c.isDigit with
    | false => rfl
    | true =>
      have hrange := Char.isDigit_iff_toNat.mp hd
      simp only [isBlank, blankRanges, List.any_cons, List.any_nil, Bool.or_false, Bool.or_eq_true,
        Bool.and_eq_true, decide_eq_true_eq, Char.reduceToNat] at hb hrange
      omega
  simp [begin, Numeral.start, hne '"' (by decide), hne '[' (by decide), hne '{' (by decide),
    hne 'n' (by decide), hne 't' (by decide), hne 'f' (by decide), hne '-' (by decide),
    hne '0' (by decide), hdigit]

theorem empty_steps {cs : List Char} (hcs : cs.all isBlank) {s : Scanner} (h : s.Empty) :
    (cs.foldl step s).Empty := by
  induction cs generalizing s with
  | nil => exact h
  | cons c cs ih =>
    simp only [List.all_cons, Bool.and_eq_true] at hcs
    obtain ⟨hc, hcs⟩ := hcs
    apply ih hcs
    rcases h with rfl | ⟨d, rfl, hd⟩
    · cases hs : isSpace c with
      | true =>
        left
        simp only [start, step, stepOutside, hs, ↓reduceIte]
      | false =>
        right
        refine ⟨.fault (Fault.all .illFormed), ?_, fails_fault _⟩
        simp only [start, step, stepOutside, hs, Bool.false_eq_true, ↓reduceIte]
        exact begin_blank hc []
    · exact .inr ⟨d, rfl, hd⟩

end Scanner

end Draft

namespace Json

theorem parse_eq_ok_iff (s : String) (j : Json) :
    parse s = .ok j ↔
      (Draft.scan s.toList).1.value (some Draft.depthLimit) = .ok j ∧
        (Draft.scan s.toList).2 = false := by
  unfold parse
  rcases Draft.scan s.toList with ⟨draft, trailing⟩
  cases hd : draft.value (some Draft.depthLimit) with
  | error e => simp [hd, bind, Except.bind]
  | ok x => cases trailing <;> simp [hd, bind, Except.bind, pure, Except.pure, throw, throwThe,
      MonadExceptOf.throw]

theorem parse_push_return (s : String) (j : Json) :
    parse (s.push '\r') = .ok j ↔ parse s = .ok j := by
  have hscan : Draft.scan (s.push '\r').toList =
      ((s.toList.foldl Draft.Scanner.step Draft.Scanner.start).step '\r').finish := by
    simp [Draft.scan]
  have hsound := Draft.Scanner.sound_steps s.toList Draft.Scanner.sound_start
  rw [parse_eq_ok_iff, parse_eq_ok_iff, hscan]
  rcases Draft.Scanner.finish_step_return hsound with h | ⟨hpush, hs⟩
  · rw [h, Draft.scan]
  · obtain ⟨e, he⟩ := hpush (some Draft.depthLimit)
    obtain ⟨e', he'⟩ := hs (some Draft.depthLimit)
    rw [Draft.scan, he, he']
    simp

theorem parse_blank {s : String} (h : s.toList.all isBlank) (j : Json) : parse s ≠ .ok j := by
  rw [ne_eq, parse_eq_ok_iff, Draft.scan]
  rcases Draft.Scanner.empty_steps h (.inl rfl) with hs | ⟨d, hs, hd⟩
  · rw [hs]
    rintro ⟨hv, -⟩
    cases hv
  · rw [hs]
    rintro ⟨hv, -⟩
    obtain ⟨e, he⟩ := hd (some Draft.depthLimit)
    exact absurd (he.symm.trans hv) (by simp)

end Json

end Display3270
