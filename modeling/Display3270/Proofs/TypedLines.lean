import Display3270.Proofs.Clusters
import Display3270.Proofs.FunctionKeys

namespace Display3270

def hasControl (s : String) : Bool := s.toList.any isControl

theorem isControl_of_isDigit {c : Char} (h : c.isDigit = true) : isControl c = false := by
  obtain ⟨hlow, hhigh⟩ := Char.isDigit_iff_toNat.mp h
  change 48 ≤ c.toNat at hlow
  change c.toNat ≤ 57 at hhigh
  simp only [isControl, Bool.or_eq_false_iff, Bool.and_eq_false_iff, decide_eq_false_iff_not]
  omega

theorem keymap_lookup_of_hasControl {name : String} (h : hasControl name = true) :
    keymap.lookup name = none := by
  have hnames : ∀ entry ∈ keymap, hasControl entry.1 = false := by decide +kernel
  apply List.lookup_eq_none_iff.mpr
  intro entry hentry
  apply bne_iff_ne.mpr
  rintro rfl
  rw [hnames entry hentry] at h
  cases h

namespace KeyPress

theorem functionKey?_of_hasControl {p : KeyPress} (h : hasControl p.key = true) :
    p.functionKey? = none := by
  apply Option.eq_none_iff_forall_ne_some.mpr
  intro n hn
  obtain ⟨⟨digits, -, hdigits, hkey, -⟩, -⟩ := (functionKey?_eq_some_iff p n).mp hn
  rw [hasControl, hkey, List.any_eq_true] at h
  obtain ⟨c, hc, hcontrol⟩ := h
  rcases List.mem_cons.mp hc with rfl | hc
  · cases hcontrol
  · rw [isControl_of_isDigit (hdigits c hc)] at hcontrol
    cases hcontrol

theorem translate_of_printable {p : KeyPress} (h : p.modifiers = .none) {text : String}
    (htext : p.printable? = some text) : p.translate = some ⟨⟨"Key", [text]⟩, .stop⟩ := by
  simp only [translate, h, Modifiers.none, htext]
  rfl

theorem translate_of_hasControl {key : String} (h : hasControl key = true)
    (hprintable : (plain key).printable? = none) : (plain key).translate = none := by
  have hcomposite : (plain key).composite = key := String.empty_append
  have hfunction : (plain key).functionKey? = none := functionKey?_of_hasControl h
  simp only [translate, hprintable, hcomposite, keymap_lookup_of_hasControl h, programFunction?,
    hfunction]
  rfl

theorem printable?_plain {g : String} (h : graphemes g = [g]) :
    (plain g).printable? = if hasControl g then none else some g := by
  have hclusters : clusters g.toList = [g.toList] := by
    obtain ⟨cluster, hcluster, htext⟩ := List.map_eq_singleton_iff.mp h
    rw [hcluster, ← htext, String.toList_ofList]
  simp only [printable?, plain, hclusters]
  rfl

theorem translate_plain {g : String} (h : graphemes g = [g]) :
    (plain g).translate = if hasControl g then none else some ⟨⟨"Key", [g]⟩, .stop⟩ := by
  have hprintable := printable?_plain h
  split at hprintable
  case isTrue hcontrol =>
    rw [if_pos hcontrol]
    exact translate_of_hasControl hcontrol hprintable
  case isFalse hcontrol =>
    rw [if_neg hcontrol]
    exact translate_of_printable rfl hprintable

theorem translate_enter :
    (plain "Enter").translate = some ⟨.plain "Enter", .stopAndPreventDefault⟩ := by
  decide +kernel

def action? (p : KeyPress) : Option Action := p.translate.map (·.action)

end KeyPress

theorem map_action?_typeLine (line : String) :
    (typeLine line).map (·.action?) =
      ((graphemes line).map fun g => if hasControl g then none else some ⟨"Key", [g]⟩) ++
        [some (.plain "Enter")] := by
  have hcluster : ∀ g ∈ graphemes line, (KeyPress.plain g).action? =
      if hasControl g then none else some ⟨"Key", [g]⟩ := by
    intro g hg
    rw [KeyPress.action?, KeyPress.translate_plain (single_of_mem_graphemes hg).2]
    split <;> rfl
  have henter : (KeyPress.plain "Enter").action? = some (.plain "Enter") := by
    rw [KeyPress.action?, KeyPress.translate_enter, Option.map_some]
  rw [typeLine, List.map_append, List.map_map, List.map_singleton, henter]
  exact congrArg (· ++ [some (Action.plain "Enter")]) (List.map_congr_left hcluster)

theorem hasControl_of_mem_graphemes {line g : String} (h : hasControl line = false)
    (hg : g ∈ graphemes line) : hasControl g = false := by
  rw [hasControl, List.any_eq_false] at h ⊢
  intro c hc
  apply h c
  rw [← join_graphemes line, String.toList_join]
  exact List.mem_flatMap.mpr ⟨g, hg, hc⟩

theorem typed_args {line : String} (h : hasControl line = false) :
    (((typeLine line).filterMap (·.action?)).filter (·.action == "Key")).flatMap (·.args) =
      graphemes line := by
  have hkeys : ((graphemes line).map fun g =>
      if hasControl g then none else some (⟨"Key", [g]⟩ : Action)) =
        (graphemes line).map fun g => some ⟨"Key", [g]⟩ := by
    apply List.map_congr_left
    intro g hg
    simp [hasControl_of_mem_graphemes h hg]
  have hactions : (typeLine line).filterMap (·.action?) =
      ((graphemes line).map fun g => ⟨"Key", [g]⟩) ++ [.plain "Enter"] := by
    have hall := congrArg (List.filterMap id) (map_action?_typeLine line)
    rw [List.filterMap_map, hkeys, List.filterMap_append, List.filterMap_map] at hall
    simpa using hall
  have hfilter : ((graphemes line).map fun g => (⟨"Key", [g]⟩ : Action)).filter
      (·.action == "Key") = (graphemes line).map fun g => ⟨"Key", [g]⟩ := by
    apply List.filter_eq_self.mpr
    intro a ha
    obtain ⟨g, -, rfl⟩ := List.mem_map.mp ha
    rfl
  have henter : [Action.plain "Enter"].filter (·.action == "Key") = [] := by decide +kernel
  rw [hactions, List.filter_append, hfilter, henter, List.append_nil, List.flatMap_map]
  exact List.flatMap_singleton' _

/-- A line is typed cluster by cluster and then sent: a cluster without control characters is typed
by its own key, one with a control character by none. So the keys of a line without control
characters type just the line. -/
theorem typeLine_types (line : String) :
    ((typeLine line).map (·.action?) =
      ((graphemes line).map fun g => if hasControl g then none else some ⟨"Key", [g]⟩) ++
        [some (.plain "Enter")]) ∧
    (hasControl line = false →
      String.join
        ((((typeLine line).filterMap (·.action?)).filter (·.action == "Key")).flatMap (·.args)) =
          line) ∧
    (∀ g ∈ graphemes line, g ≠ "" ∧ graphemes g = [g]) ∧ String.join (graphemes line) = line := by
  refine ⟨map_action?_typeLine line, ?_, fun g hg => single_of_mem_graphemes hg,
    join_graphemes line⟩
  intro h
  rw [typed_args h, join_graphemes]

theorem typeLine_types_flag :
    let line := "F1 e\u0301🇫🇷"
    hasControl line = false ∧ (graphemes line).length = 5 ∧
      String.join
        ((((typeLine line).filterMap (·.action?)).filter (·.action == "Key")).flatMap (·.args)) =
          line := by
  intro line
  have hcontrol : hasControl line = false := by decide +kernel
  exact ⟨hcontrol, by decide +kernel, (typeLine_types line).2.1 hcontrol⟩

example : ((typeLine "a\t\r\nEnter").map (·.action?)).take 3 =
    [some ⟨"Key", ["a"]⟩, none, none] := by
  decide +kernel

end Display3270
