import Mathlib.Data.Char
import Mathlib.Data.List.Induction
import Mathlib.Data.List.Lex
import Mathlib.Data.Prod.Lex
import Mathlib.Order.WithBot
import Display3270.LogFilter.Basic
import Display3270.Proofs.LogDirectives
import Display3270.Proofs.Renditions

namespace Display3270

namespace LogDirective

def fieldOrder : Option (List Char) → WithBot (List Char)
  | none => ⊥
  | some name => name

theorem fieldAtMost_iff (a b : Option (List Char)) :
    fieldAtMost a b = true ↔ fieldOrder a ≤ fieldOrder b := by
  cases a with
  | none => exact ⟨fun _ => bot_le, fun _ => rfl⟩
  | some a =>
    cases b with
    | none => exact ⟨nofun, fun h => absurd h (WithBot.not_coe_le_bot a)⟩
    | some b =>
      have hlex : (List.lex b a fun x y => decide (x < y)) = true ↔ b < a :=
        List.lex_eq_true_iff_lt
      rw [fieldAtMost, Bool.not_eq_true', ← Bool.not_eq_true]
      exact (not_congr hlex).trans (not_lt.trans WithBot.coe_le_coe.symm)

def weight (d : LogDirective) : ℕ ×ₗ WithBot (List Char) :=
  toLex (d.target.length, fieldOrder d.field)

theorem overrides_iff (d b : LogDirective) : d.overrides b = true ↔ b.weight ≤ d.weight := by
  simp [overrides, weight, Prod.Lex.toLex_le_toLex, fieldAtMost_iff]

theorem plain_weight_le (d : LogDirective) (limit : Nat) :
    (⟨[], none, false, limit⟩ : LogDirective).weight ≤ d.weight := by
  rcases Nat.eq_zero_or_pos d.target.length with hzero | hpos
  · exact Prod.Lex.toLex_le_toLex.mpr (.inr ⟨hzero.symm, bot_le⟩)
  · exact Prod.Lex.toLex_le_toLex.mpr (.inl hpos)

end LogDirective

namespace LogFilter

def pick (best : Option LogDirective) (d : LogDirective) : Option LogDirective :=
  match best with
  | none => some d
  | some b => if d.overrides b then some d else some b

theorem pick_of_le {best : Option LogDirective} {d : LogDirective}
    (h : ∀ b ∈ best, b.weight ≤ d.weight) : pick best d = some d := by
  cases best with
  | none => rfl
  | some b => exact if_pos ((d.overrides_iff b).mpr (h b rfl))

theorem pick_of_lt {b d : LogDirective} (h : d.weight < b.weight) : pick (some b) d = some b :=
  if_neg fun hover => absurd ((d.overrides_iff b).mp hover) (not_le_of_gt h)

theorem foldl_pick_of_lt {b : LogDirective} {ds : List LogDirective}
    (h : ∀ d ∈ ds, d.weight < b.weight) : ds.foldl pick (some b) = some b := by
  induction ds with
  | nil => rfl
  | cons d ds ih =>
    obtain ⟨hd, hrest⟩ := List.forall_mem_cons.mp h
    rw [List.foldl_cons, pick_of_lt hd, ih hrest]

theorem foldl_pick_cases (ds : List LogDirective) :
    (ds = [] ∧ ds.foldl pick none = none) ∨
      ∃ before d after, ds = before ++ d :: after ∧ (∀ b ∈ before, b.weight ≤ d.weight) ∧
        (∀ b ∈ after, b.weight < d.weight) ∧ ds.foldl pick none = some d := by
  -- by the end of the list: the last directive takes over if it is as heavy as the best before it
  induction ds using List.reverseRecOn with
  | nil => exact .inl ⟨rfl, rfl⟩
  | append_singleton ds x ih =>
    right
    rw [List.foldl_concat]
    rcases ih with ⟨rfl, hnone⟩ | ⟨before, d, after, rfl, hbefore, hafter, hsome⟩
    · exact ⟨[], x, [], rfl, by simp, by simp, by rw [hnone]; rfl⟩
    · rw [hsome]
      rcases le_or_gt d.weight x.weight with hle | hlt
      · refine ⟨before ++ d :: after, x, [], by simp, ?_, by simp, ?_⟩
        · intro b hb
          rcases List.mem_append.mp hb with hb | hb
          · exact (hbefore b hb).trans hle
          · rcases List.mem_cons.mp hb with rfl | hb
            · exact hle
            · exact (hafter b hb).le.trans hle
        · exact pick_of_le fun b hb => by obtain rfl := Option.mem_some.mp hb; exact hle
      · refine ⟨before, d, after ++ [x], by simp, hbefore, ?_, pick_of_lt hlt⟩
        intro b hb
        rcases List.mem_append.mp hb with hb | hb
        · exact hafter b hb
        · obtain rfl := List.mem_singleton.mp hb
          exact hlt

theorem decisive?_eq (f : LogFilter) (o : LogOrigin) :
    f.decisive? o = (f.directives.filter (·.covers o)).foldl pick none := by
  rfl

/-- Of the directives that cover an origin the one decides that is the last of the heaviest. -/
theorem decisive?_eq_some_iff {f : LogFilter} {o : LogOrigin} {d : LogDirective} :
    f.decisive? o = some d ↔
      ∃ before after, f.directives.filter (·.covers o) = before ++ d :: after ∧
        (∀ b ∈ before, b.weight ≤ d.weight) ∧ ∀ b ∈ after, b.weight < d.weight := by
  rw [decisive?_eq]
  constructor
  · intro h
    rcases foldl_pick_cases (f.directives.filter (·.covers o)) with
      ⟨-, hnone⟩ | ⟨before, e, after, hsplit, hbefore, hafter, hsome⟩
    · rw [h] at hnone
      contradiction
    · obtain rfl : d = e := by simpa [h] using hsome
      exact ⟨before, after, hsplit, hbefore, hafter⟩
  · rintro ⟨before, after, hsplit, hbefore, hafter⟩
    rw [hsplit, List.foldl_append, List.foldl_cons]
    have hheaviest : pick (before.foldl pick none) d = some d := by
      apply pick_of_le
      intro b hb
      rcases foldl_pick_cases before with ⟨-, hnone⟩ | ⟨front, e, back, hbefore', -, -, hsome⟩
      · rw [hnone] at hb
        contradiction
      · rw [hsome] at hb
        obtain rfl := Option.mem_some.mp hb
        exact hbefore _ (by simp [hbefore'])
    rw [hheaviest, foldl_pick_of_lt hafter]

theorem decisive?_eq_none_iff {f : LogFilter} {o : LogOrigin} :
    f.decisive? o = none ↔ ∀ d ∈ f.directives, d.covers o = false := by
  have hnil : f.directives.filter (·.covers o) = [] ↔ ∀ d ∈ f.directives, d.covers o = false := by
    simp
  rw [← hnil, decisive?_eq]
  constructor
  · intro h
    rcases foldl_pick_cases (f.directives.filter (·.covers o)) with
      ⟨hempty, -⟩ | ⟨before, d, after, -, -, -, hsome⟩
    · exact hempty
    · rw [h] at hsome
      contradiction
  · intro h
    rw [h]
    rfl

theorem lets_of_graver {f : LogFilter} {o graver : LogOrigin} (htarget : graver.target = o.target)
    (hfields : graver.fields = o.fields) (hlevel : graver.level.rank ≤ o.level.rank)
    (h : f.lets o = true) : f.lets graver = true := by
  have hcovers : ∀ d : LogDirective, d.covers graver = d.covers o := by
    intro d
    rw [LogDirective.covers, LogDirective.covers, htarget, hfields]
  have hdecisive : f.decisive? graver = f.decisive? o := by
    simp only [decisive?, hcovers]
  rw [lets, hdecisive]
  rw [lets] at h
  cases hd : f.decisive? o with
  | none => simp [hd] at h
  | some d =>
    simp only [hd, decide_eq_true_eq] at h ⊢
    exact hlevel.trans h

theorem decisive?_concat (ds : List LogDirective) (d : LogDirective) (o : LogOrigin) :
    decisive? ⟨ds ++ [d]⟩ o =
      if d.covers o then pick (decisive? ⟨ds⟩ o) d else decisive? ⟨ds⟩ o := by
  simp only [decisive?_eq, List.filter_append, List.foldl_append]
  cases hcovers : d.covers o <;> simp [hcovers]

def read (text : String) : List LogDirective :=
  (text.toList.splitOn ',').filterMap fun part => DirectiveText.directive? ⟨part⟩

theorem read_append (a b : String) : read (a ++ "," ++ b) = read a ++ read b := by
  rw [read, splitOn_comma, List.filterMap_append, read, read]

theorem read_single {text : String} (h : ',' ∉ text.toList) :
    read text = (DirectiveText.directive? ⟨text.toList⟩).toList := by
  have hsplit : text.toList.splitOn ',' = [text.toList] :=
    List.splitOn_eq_singleton h
  rw [read, hsplit, List.filterMap_cons]
  cases DirectiveText.directive? ⟨text.toList⟩ <;> rfl

theorem ofText_eq (text : String) :
    ofText text = if read text = [] then errors else ⟨read text⟩ := by
  rw [ofText, cut_eq_splitOn, read]
  split
  case h_1 hnil => rw [if_pos hnil]
  case h_2 hne => rw [if_neg hne]

theorem ofText_ne_nil (text : String) : (ofText text).directives ≠ [] := by
  rw [ofText_eq]
  split
  case isTrue => exact List.cons_ne_nil _ _
  case isFalse hne => exact hne

theorem comma_notMem {text : String} (h : ∀ c ∈ text.toList, DirectiveText.mayStart c = true) :
    ',' ∉ text.toList :=
  fun hcomma => DirectiveText.ne_of_mayStart (by decide +kernel) (h ',' hcomma) rfl

theorem ne_nil_of_limit? {cs : List Char} {limit : Nat} (h : LogLevel.limit? cs = some limit) :
    cs ≠ [] := by
  rintro rfl
  have hnone : LogLevel.limit? [] = none := by decide
  simp [hnone] at h

theorem read_level {word : String} {limit : Nat}
    (h : ∀ c ∈ word.toList, DirectiveText.mayStart c = true)
    (hlimit : LogLevel.limit? word.toList = some limit) :
    read word = [⟨[], none, false, limit⟩] := by
  rw [read_single (comma_notMem h), DirectiveText.directive?_word (ne_nil_of_limit? hlimit) h,
    hlimit]
  rfl

theorem read_pair {target level : String} {limit : Nat} (hne : target ≠ "")
    (htarget : ∀ c ∈ target.toList, DirectiveText.mayStart c = true)
    (hlevel : ∀ c ∈ level.toList, DirectiveText.mayStart c = true)
    (hlimit : LogLevel.limit? level.toList = some limit) :
    read (target ++ "=" ++ level) = [⟨target.toList, none, false, limit⟩] := by
  have hlist : (target ++ "=" ++ level).toList = target.toList ++ '=' :: level.toList := by simp
  have hcomma : ',' ∉ (target ++ "=" ++ level).toList := by
    rw [hlist, List.mem_append, List.mem_cons]
    rintro (hmem | hequals | hmem)
    · exact comma_notMem htarget hmem
    · exact absurd hequals (by decide)
    · exact comma_notMem hlevel hmem
  have hnonempty : level.toList.isEmpty = false :=
    List.isEmpty_eq_false_iff.mpr (ne_nil_of_limit? hlimit)
  rw [read_single hcomma, hlist, DirectiveText.directive?_pair (by simpa using hne) htarget hlevel,
    hnonempty, hlimit]
  rfl

theorem covers_plain (target : List Char) (limit : Nat) (o : LogOrigin) :
    (⟨target, none, false, limit⟩ : LogDirective).covers o = target.isPrefixOf o.target.toList := by
  simp [LogDirective.covers]

theorem lets_level {word : String} {limit : Nat}
    (h : ∀ c ∈ word.toList, DirectiveText.mayStart c = true)
    (hlimit : LogLevel.limit? word.toList = some limit) (o : LogOrigin) :
    (ofText word).lets o = decide (o.level.rank ≤ limit) := by
  have hcovers := covers_plain [] limit o
  rw [List.isPrefixOf_nil_left] at hcovers
  have hdecisive : decisive? ⟨[⟨[], none, false, limit⟩]⟩ o = some ⟨[], none, false, limit⟩ := by
    rw [← List.nil_append [_], decisive?_concat, hcovers]
    rfl
  rw [ofText_eq, read_level h hlimit, if_neg (List.cons_ne_nil _ _), lets, hdecisive]

theorem lets_concat {text : String} {low : Nat} {d : LogDirective}
    (hread : read text = [⟨[], none, false, low⟩, d]) (o : LogOrigin) :
    (ofText text).lets o = decide (o.level.rank ≤ if d.covers o then d.limit else low) := by
  have hplain : decisive? ⟨[⟨[], none, false, low⟩]⟩ o = some ⟨[], none, false, low⟩ := by
    rw [← List.nil_append [_], decisive?_concat, covers_plain]
    rfl
  have hlast : pick (some ⟨[], none, false, low⟩) d = some d :=
    pick_of_le fun b hb => by
      obtain rfl := Option.mem_some.mp hb
      exact d.plain_weight_le low
  have hsplit : [⟨[], none, false, low⟩, d] = [⟨[], none, false, low⟩] ++ [d] := rfl
  rw [ofText_eq, hread, if_neg (List.cons_ne_nil _ _), lets, hsplit, decisive?_concat, hplain,
    hlast]
  cases d.covers o <;> rfl

/-- A level for a target decides what comes from under the target, and the level before it all
that is left. -/
theorem lets_level_pair {outer target inner : String} {low high : Nat} (hne : target ≠ "")
    (houter : ∀ c ∈ outer.toList, DirectiveText.mayStart c = true)
    (htarget : ∀ c ∈ target.toList, DirectiveText.mayStart c = true)
    (hinner : ∀ c ∈ inner.toList, DirectiveText.mayStart c = true)
    (hlow : LogLevel.limit? outer.toList = some low)
    (hhigh : LogLevel.limit? inner.toList = some high) (o : LogOrigin) :
    (ofText (outer ++ "," ++ (target ++ "=" ++ inner))).lets o =
      decide (o.level.rank ≤ if target.toList.isPrefixOf o.target.toList then high else low) := by
  have hread : read (outer ++ "," ++ (target ++ "=" ++ inner)) =
      [⟨[], none, false, low⟩, ⟨target.toList, none, false, high⟩] := by
    rw [read_append, read_level houter hlow, read_pair hne htarget hinner hhigh]
    rfl
  rw [lets_concat hread, covers_plain]

theorem read_field {name level : String} {limit : Nat} (hne : name ≠ "")
    (hname : ∀ c ∈ name.toList, DirectiveText.mayStart c = true)
    (hlevel : ∀ c ∈ level.toList, DirectiveText.mayStart c = true)
    (hlimit : LogLevel.limit? level.toList = some limit) :
    read ("[\x7b" ++ name ++ "\x7d]=" ++ level) = [⟨[], some name.toList, false, limit⟩] := by
  have hlist : ("[\x7b" ++ name ++ "\x7d]=" ++ level).toList =
      '[' :: ('\x7b' :: name.toList ++ ['\x7d', ']']) ++ '=' :: level.toList := by simp
  have hcomma : ',' ∉ ("[\x7b" ++ name ++ "\x7d]=" ++ level).toList := by
    have hlevelComma := comma_notMem hlevel
    have hnameComma := comma_notMem hname
    simp [hlevelComma, hnameComma]
  have hnonempty : level.toList.isEmpty = false :=
    List.isEmpty_eq_false_iff.mpr (ne_nil_of_limit? hlimit)
  rw [read_single hcomma, hlist, DirectiveText.directive?_field (by simpa using hne) hname hlevel,
    hnonempty, hlimit]
  rfl

/-- A level for a field decides what has a field of that name. -/
theorem lets_level_field {outer name inner : String} {low high : Nat} (hne : name ≠ "")
    (houter : ∀ c ∈ outer.toList, DirectiveText.mayStart c = true)
    (hname : ∀ c ∈ name.toList, DirectiveText.mayStart c = true)
    (hinner : ∀ c ∈ inner.toList, DirectiveText.mayStart c = true)
    (hlow : LogLevel.limit? outer.toList = some low)
    (hhigh : LogLevel.limit? inner.toList = some high) (o : LogOrigin) :
    (ofText (outer ++ "," ++ ("[\x7b" ++ name ++ "\x7d]=" ++ inner))).lets o =
      decide (o.level.rank ≤ if o.fields.contains name then high else low) := by
  have hread : read (outer ++ "," ++ ("[\x7b" ++ name ++ "\x7d]=" ++ inner)) =
      [⟨[], none, false, low⟩, ⟨[], some name.toList, false, high⟩] := by
    rw [read_append, read_level houter hlow, read_field hne hname hinner hhigh]
    rfl
  have hcovers : (⟨[], some name.toList, false, high⟩ : LogDirective).covers o =
      o.fields.contains name := by simp [LogDirective.covers]
  rw [lets_concat hread, hcovers]

theorem decisive?_span {ds : List LogDirective} {d : LogDirective} (h : d.inSpan = true)
    (o : LogOrigin) : decisive? ⟨ds ++ [d]⟩ o = decisive? ⟨ds⟩ o := by
  rw [decisive?_concat]
  simp [LogDirective.covers, h]

end LogFilter

end Display3270
