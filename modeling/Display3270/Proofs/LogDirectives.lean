import Mathlib.Data.List.TakeDrop
import Mathlib.Data.List.TakeWhile
import Display3270.LogFilter.Directive
import Display3270.Proofs.CodeRanges

namespace Display3270

namespace DirectiveText

@[simp] theorem width_cons (c : Char) (cs : List Char) :
    width (c :: cs) = c.utf8Size + width cs := rfl

theorem width_append (a b : List Char) : width (a ++ b) = width a + width b := by
  induction a with
  | nil => simp [width]
  | cons c a ih => simp only [List.cons_append, width_cons, ih, Nat.add_assoc]

theorem width_eq_zero_iff {cs : List Char} : width cs = 0 ↔ cs = [] := by
  cases cs with
  | nil => simp [width]
  | cons c cs =>
    have hpos := c.utf8Size_pos
    simp only [width_cons, reduceCtorEq, iff_false]
    omega

theorem split_cons_iff {n : Nat} {c : Char} {cs front rest : List Char} :
    (c :: cs = front ++ rest ∧ width front = n + 1) ↔
      c.utf8Size ≤ n + 1 ∧ ∃ tail, front = c :: tail ∧ cs = tail ++ rest ∧
        width tail = n + 1 - c.utf8Size := by
  constructor
  · rintro ⟨hcs, hwidth⟩
    cases front with
    | nil => simp [width] at hwidth
    | cons d tail =>
      obtain ⟨rfl, htail⟩ := List.cons_eq_cons.mp hcs
      rw [width_cons] at hwidth
      exact ⟨by omega, tail, rfl, htail, by omega⟩
  · rintro ⟨hle, tail, rfl, rfl, hwidth⟩
    exact ⟨rfl, by rw [width_cons]; omega⟩

theorem dropBytes?_eq_some_iff {n : Nat} {cs rest : List Char} :
    dropBytes? n cs = some rest ↔ ∃ front, cs = front ++ rest ∧ width front = n := by
  fun_induction dropBytes? n cs with
  | case1 cs =>
    simp only [width_eq_zero_iff, exists_eq_right, List.nil_append, Option.some.injEq]
  | case2 n =>
    simp only [reduceCtorEq, false_iff, not_exists, not_and]
    rintro front hnil
    obtain ⟨rfl, -⟩ := List.append_eq_nil_iff.mp hnil.symm
    simp [width]
  | case3 n c cs hle ih =>
    rw [ih]
    constructor
    · rintro ⟨tail, hcs, hwidth⟩
      exact ⟨c :: tail, split_cons_iff.mpr ⟨hle, tail, rfl, hcs, hwidth⟩⟩
    · rintro ⟨front, hfront⟩
      obtain ⟨-, tail, -, hcs, hwidth⟩ := split_cons_iff.mp hfront
      exact ⟨tail, hcs, hwidth⟩
  | case4 n c cs hnot =>
    simp only [split_cons_iff, reduceCtorEq, false_iff, not_exists, not_and]
    exact fun _ hle => absurd hle hnot

theorem takeBytes?_eq_some_iff {n : Nat} {cs front : List Char} :
    takeBytes? n cs = some front ↔ ∃ rest, cs = front ++ rest ∧ width front = n := by
  fun_induction takeBytes? n cs generalizing front with
  | case1 cs =>
    simp only [width_eq_zero_iff, exists_and_right, Option.some.injEq]
    constructor
    · rintro rfl
      exact ⟨⟨cs, rfl⟩, rfl⟩
    · rintro ⟨-, rfl⟩
      rfl
  | case2 n =>
    simp only [reduceCtorEq, false_iff, not_exists, not_and]
    rintro rest hnil
    obtain ⟨rfl, -⟩ := List.append_eq_nil_iff.mp hnil.symm
    simp [width]
  | case3 n c cs hle ih =>
    simp only [Option.map_eq_some_iff, ih]
    constructor
    · rintro ⟨tail, ⟨rest, hcs, hwidth⟩, rfl⟩
      exact ⟨rest, split_cons_iff.mpr ⟨hle, tail, rfl, hcs, hwidth⟩⟩
    · rintro ⟨rest, hfront⟩
      obtain ⟨-, tail, rfl, hcs, hwidth⟩ := split_cons_iff.mp hfront
      exact ⟨tail, ⟨rest, hcs, hwidth⟩, rfl⟩
  | case4 n c cs hnot =>
    simp only [split_cons_iff, reduceCtorEq, false_iff, not_exists, not_and]
    exact fun _ hle => absurd hle hnot

theorem piece?_eq_some_iff {t : DirectiveText} {start : Nat} {cs piece : List Char} :
    t.piece? start cs = some piece ↔
      ∃ before after, t.whole = before ++ (piece ++ after) ∧ width before = start ∧
        width piece = width cs := by
  simp only [piece?, Option.bind_eq_some_iff, dropBytes?_eq_some_iff, takeBytes?_eq_some_iff]
  constructor
  · rintro ⟨_, ⟨before, hwhole, hstart⟩, after, rfl, hwidth⟩
    exact ⟨before, after, hwhole, hstart, hwidth⟩
  · rintro ⟨before, after, hwhole, hstart, hwidth⟩
    exact ⟨piece ++ after, ⟨before, hwhole, hstart⟩, after, rfl, hwidth⟩

theorem piece?_front {front rest : List Char} : piece? ⟨front ++ rest⟩ 0 front = some front :=
  piece?_eq_some_iff.mpr ⟨[], rest, rfl, rfl, rfl⟩

theorem letterRanges_blankRanges :
    ∀ r ∈ letterRanges, ∀ b ∈ blankRanges, r.2.1 < b.1 ∨ b.2 < r.1 := by
  have hall : letterRanges.toList.all
      (fun r => blankRanges.all fun b => r.2.1 < b.1 || b.2 < r.1) = true := by decide +kernel
  intro r hr b hb
  have hrow := List.all_eq_true.mp (List.all_eq_true.mp hall r hr.val) b hb
  simpa using hrow

theorem isBlank_of_says {c : Char} {kind : LetterClass} (h : letterRanges.Says c.toNat kind) :
    isBlank c = false := by
  obtain ⟨first, last, hmem, hfirst, hlast⟩ := h
  rw [Bool.eq_false_iff]
  intro hblank
  obtain ⟨b, hb, hrange⟩ := List.any_eq_true.mp hblank
  rw [Bool.and_eq_true, decide_eq_true_eq, decide_eq_true_eq] at hrange
  have hapart : last < b.1 ∨ b.2 < first := letterRanges_blankRanges _ hmem b hb
  omega

theorem isBlank_of_mayStart {c : Char} (h : mayStart c = true) : isBlank c = false := by
  rw [mayStart, Bool.or_eq_true] at h
  rcases h with hsign | hletter
  · simp only [Bool.or_eq_true, beq_iff_eq] at hsign
    rcases hsign with (rfl | rfl) | rfl <;> decide
  · rcases (isLetterOrNumber_iff c).mp hletter with hfound | hfound
    · exact isBlank_of_says hfound
    · exact isBlank_of_says hfound

theorem mayStart_of_isAlphanum {c : Char} (h : c.isAlphanum = true) : mayStart c = true := by
  simp [mayStart, isLetterOrNumber_of_isAlphanum h]

theorem ne_of_mayStart {c sign : Char} (hsign : mayStart sign = false) (h : mayStart c = true) :
    c ≠ sign := by
  rintro rfl
  rw [hsign] at h
  contradiction

theorem trim_of_forall {cs : List Char} (hstart : ∀ c ∈ cs.head?, isBlank c = false)
    (hend : ∀ c ∈ cs.getLast?, isBlank c = false) : trim cs = cs := by
  have hfront : ∀ cs : List Char, (∀ c ∈ cs.head?, isBlank c = false) →
      cs.dropWhile isBlank = cs := by
    intro cs h
    cases cs with
    | nil => rfl
    | cons c cs => simp [h c rfl]
  rw [trim, trimStart, hfront cs hstart, trimEnd, hfront cs.reverse (by simpa using hend),
    List.reverse_reverse]

theorem trim_word {cs : List Char} (h : ∀ c ∈ cs, mayStart c = true) : trim cs = cs :=
  trim_of_forall (fun c hc => isBlank_of_mayStart (h c (List.mem_of_mem_head? hc)))
    fun c hc => isBlank_of_mayStart (h c (List.mem_of_mem_getLast? hc))

theorem trim_level {front level : List Char} (hne : front ≠ [])
    (hfront : ∀ c ∈ front.head?, isBlank c = false) (hlevel : ∀ c ∈ level, mayStart c = true) :
    trim (front ++ '=' :: level) = front ++ '=' :: level := by
  apply trim_of_forall
  · intro c hc
    rw [List.head?_append_of_ne_nil _ hne] at hc
    exact hfront c hc
  · intro c hc
    have hmem : c = '=' ∨ c ∈ level := by
      rw [List.getLast?_append_cons] at hc
      exact List.mem_cons.mp (List.mem_of_mem_getLast? hc)
    rcases hmem with rfl | hc
    · decide
    · exact isBlank_of_mayStart (hlevel c hc)

theorem trim_pair {target level : List Char} (hne : target ≠ [])
    (htarget : ∀ c ∈ target, mayStart c = true) (hlevel : ∀ c ∈ level, mayStart c = true) :
    trim (target ++ '=' :: level) = target ++ '=' :: level :=
  trim_level hne (fun c hc => isBlank_of_mayStart (htarget c (List.mem_of_mem_head? hc))) hlevel

theorem isTargetPart_of_mayStart {c : Char} (h : mayStart c = true) :
    (c != '=' && c != '[') = true := by
  have hequals : c ≠ '=' := ne_of_mayStart (by decide +kernel) h
  have hbracket : c ≠ '[' := ne_of_mayStart (by decide +kernel) h
  simp [hequals, hbracket]

theorem directive?_eq {t : DirectiveText} {cs : List Char} (htrim : trim t.whole = cs)
    (hne : cs ≠ []) (h : ∀ c ∈ cs.head?, mayStart c = true) : t.directive? = t.ofTarget? cs := by
  rw [directive?]
  split
  case h_1 hnil => exact absurd (htrim.symm.trans hnil) hne
  case h_2 rest heq =>
    obtain rfl := htrim.symm.trans heq
    have hbracket : mayStart '[' = true := h '[' rfl
    exact absurd hbracket (by decide +kernel)
  case h_3 c rest _ heq =>
    obtain rfl := htrim.symm.trans heq
    exact if_pos (h c rfl)

theorem directive?_word {cs : List Char} (hne : cs ≠ []) (h : ∀ c ∈ cs, mayStart c = true) :
    directive? ⟨cs⟩ = some (match LogLevel.limit? cs with
      | some limit => ⟨[], none, false, limit⟩
      | none => ⟨cs, none, false, LogLevel.all⟩) := by
  have hspan : cs.span (fun c => c != '=' && c != '[') = (cs, []) := by
    have hall : ∀ c ∈ cs, (c != '=' && c != '[') = true :=
      fun c hc => isTargetPart_of_mayStart (h c hc)
    rw [List.span_eq_takeWhile_dropWhile, List.takeWhile_eq_self_iff.mpr hall,
      List.dropWhile_eq_nil_iff.mpr hall]
  rw [directive?_eq (trim_word h) hne fun c hc => h c (List.mem_of_mem_head? hc), ofTarget?, hspan]
  cases LogLevel.limit? cs <;> rfl

theorem level?_front (front level : List Char) :
    level? ⟨front ++ '=' :: level⟩ (width front) ('=' :: level) =
      if level.isEmpty then some LogLevel.all else LogLevel.limit? level := by
  have hafter : dropBytes? (width front + 1) (front ++ '=' :: level) = some level := by
    refine dropBytes?_eq_some_iff.mpr ⟨front ++ ['='], by simp, ?_⟩
    rw [width_append]
    rfl
  rw [level?, hafter]
  cases level <;> rfl

theorem span_stop {p : Char → Bool} {cs rest : List Char} {stop : Char}
    (h : ∀ c ∈ cs, p c = true) (hstop : p stop = false) :
    (cs ++ stop :: rest).span p = (cs, stop :: rest) := by
  rw [List.span_eq_takeWhile_dropWhile, List.takeWhile_append_of_pos h,
    List.dropWhile_append_of_pos h]
  simp [hstop]

theorem ofTarget?_pair (t : DirectiveText) {target level : List Char}
    (htarget : ∀ c ∈ target, mayStart c = true) :
    t.ofTarget? (target ++ '=' :: level) =
      (t.piece? 0 target).bind fun name =>
        (t.level? (width target) ('=' :: level)).bind fun limit =>
          some ⟨name, none, false, limit⟩ := by
  have hall : ∀ c ∈ target, (c != '=' && c != '[') = true :=
    fun c hc => isTargetPart_of_mayStart (htarget c hc)
  have hspan : (target ++ '=' :: level).span (fun c => c != '=' && c != '[') =
      (target, '=' :: level) := span_stop hall rfl
  rw [ofTarget?, hspan]
  rfl

theorem head?_pair {target level : List Char} (hne : target ≠ [])
    (htarget : ∀ c ∈ target, mayStart c = true) :
    ∀ c ∈ (target ++ '=' :: level).head?, mayStart c = true := by
  intro c hc
  rw [List.head?_append_of_ne_nil _ hne] at hc
  exact htarget c (List.mem_of_mem_head? hc)

theorem directive?_pair {target level : List Char} (hne : target ≠ [])
    (htarget : ∀ c ∈ target, mayStart c = true) (hlevel : ∀ c ∈ level, mayStart c = true) :
    directive? ⟨target ++ '=' :: level⟩ =
      (if level.isEmpty then some LogLevel.all else LogLevel.limit? level).map fun limit =>
        ⟨target, none, false, limit⟩ := by
  rw [directive?_eq (trim_pair hne htarget hlevel) (by simp) (head?_pair hne htarget),
    ofTarget?_pair _ htarget, piece?_front, Option.bind_some, level?_front]
  exact Option.map_eq_bind.symm

theorem limit?_equals (cs : List Char) : LogLevel.limit? ('=' :: cs) = none := by
  have hword : LogLevel.limitOfWord? ('=' :: cs) = none := by
    rw [LogLevel.limitOfWord?]
    split <;> simp_all [← String.toList_inj]
  rw [LogLevel.limit?, hword]
  simp [LogLevel.limitOfNumber?]

/-- With a blank before it a target with a level is left out: the level is looked for one byte
before its place. -/
theorem directive?_spaced {target level : List Char} (hne : target ≠ [])
    (htarget : ∀ c ∈ target, mayStart c = true) (hlevel : ∀ c ∈ level, mayStart c = true) :
    directive? ⟨' ' :: (target ++ '=' :: level)⟩ = none := by
  have htrim : trim (' ' :: (target ++ '=' :: level)) = target ++ '=' :: level :=
    trim_pair hne htarget hlevel
  have hbefore : dropBytes? (width target + 1) (' ' :: (target ++ '=' :: level)) =
      some ('=' :: level) := by
    refine dropBytes?_eq_some_iff.mpr ⟨' ' :: target, by simp, ?_⟩
    rw [width_cons, Nat.add_comm]
    rfl
  -- the signs are found without the blank, but the level is taken from the text with it
  rw [directive?_eq htrim (by simp) (head?_pair hne htarget), ofTarget?_pair _ htarget, level?,
    hbefore]
  have hlimit := limit?_equals level
  simp [hlimit]

theorem directive?_bracket {front level : List Char} (hlevel : ∀ c ∈ level, mayStart c = true) :
    directive? ⟨'[' :: front ++ '=' :: level⟩ =
      ofSpan? ⟨'[' :: front ++ '=' :: level⟩ [] 1 (front ++ '=' :: level) := by
  have htrim : trim ('[' :: front ++ '=' :: level) = '[' :: front ++ '=' :: level :=
    trim_level (List.cons_ne_nil _ _) (by simp [isBlank, blankRanges]) hlevel
  rw [directive?]
  simp only [htrim]
  rfl

theorem directive?_span {name level : List Char} (hname : ∀ c ∈ name, mayStart c = true)
    (hlevel : ∀ c ∈ level, mayStart c = true) :
    directive? ⟨'[' :: (name ++ [']']) ++ '=' :: level⟩ =
      (if level.isEmpty then some LogLevel.all else LogLevel.limit? level).map fun limit =>
        ⟨[], none, true, limit⟩ := by
  have hinside : ∀ c ∈ name, (c != ']' && c != '{') = true := by
    intro c hc
    have hbracket : c ≠ ']' := ne_of_mayStart (by decide +kernel) (hname c hc)
    have hbrace : c ≠ '{' := ne_of_mayStart (by decide +kernel) (hname c hc)
    simp [hbracket, hbrace]
  have hspan : (name ++ [']'] ++ '=' :: level).span (fun c => c != ']' && c != '{') =
      (name, ']' :: '=' :: level) := by
    rw [List.append_assoc]
    exact span_stop hinside rfl
  have hwidth : 1 + width name + 1 = width ('[' :: (name ++ [']'])) := by
    rw [width_cons, width_append]
    rfl
  rw [directive?_bracket hlevel, ofSpan?, hspan]
  simp only [hwidth, level?_front]
  exact Option.map_eq_bind.symm

theorem directive?_field {name level : List Char} (hne : name ≠ [])
    (hname : ∀ c ∈ name, mayStart c = true) (hlevel : ∀ c ∈ level, mayStart c = true) :
    directive? ⟨'[' :: ('{' :: name ++ ['}', ']']) ++ '=' :: level⟩ =
      (if level.isEmpty then some LogLevel.all else LogLevel.limit? level).map fun limit =>
        ⟨[], some name, false, limit⟩ := by
  let t : DirectiveText := ⟨'[' :: ('{' :: name ++ ['}', ']']) ++ '=' :: level⟩
  have hspan : ('{' :: name ++ ['}', ']'] ++ '=' :: level).span (fun c => c != ']' && c != '{') =
      ([], '{' :: (name ++ '}' :: ']' :: '=' :: level)) := by
    simp [List.span_eq_takeWhile_dropWhile]
  have hbrace : (name ++ '}' :: ']' :: '=' :: level).span (· != '}') =
      (name, '}' :: ']' :: '=' :: level) := by
    apply span_stop
    · intro c hc
      have hend : c ≠ '}' := ne_of_mayStart (by decide +kernel) (hname c hc)
      simp [hend]
    · rfl
  have hpiece : t.piece? 2 name = some name :=
    piece?_eq_some_iff.mpr ⟨['[', '{'], ['}', ']'] ++ '=' :: level, by simp [t], rfl, rfl⟩
  have hfield : field? name = some (name, none) := by
    have hequals : ∀ c ∈ name, (c != '=') = true := by
      intro c hc
      have hsign : c ≠ '=' := ne_of_mayStart (by decide +kernel) (hname c hc)
      simp [hsign]
    rw [field?, List.span_eq_takeWhile_dropWhile, List.takeWhile_eq_self_iff.mpr hequals,
      List.dropWhile_eq_nil_iff.mpr hequals]
  have hwidth : 2 + width name + 2 = width ('[' :: ('{' :: name ++ ['}', ']'])) := by
    have hends : width ['}', ']'] = 2 := rfl
    have hfirst : '['.utf8Size = 1 ∧ '{'.utf8Size = 1 := by decide
    rw [width_cons, List.cons_append, width_cons, width_append]
    omega
  have hread : t.ofField? [] false 2 (name ++ '}' :: ']' :: '=' :: level) =
      (t.level? (2 + width name + 2) ('=' :: level)).map fun limit =>
        ⟨[], some name, false, limit⟩ := by
    obtain ⟨c, cs, rfl⟩ := List.exists_cons_of_ne_nil hne
    rw [ofField?, hbrace]
    simp only [hpiece, hfield, Option.bind_eq_bind, Option.bind_some]
    exact Option.map_eq_bind.symm
  rw [directive?_bracket hlevel, ofSpan?, hspan]
  exact hread.trans (by rw [hwidth, level?_front])

end DirectiveText

end Display3270
