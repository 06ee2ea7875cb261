import Display3270.Text.Lines

namespace Display3270

namespace Content

theorem linesFrom_line (cs : List Char) (h : '\n' ∉ cs) (line rest : Content) :
    linesFrom line (cs.map some ++ some '\n' :: rest) =
      dropReturn (line.reverse ++ cs.map some) :: linesFrom [] rest := by
  induction cs generalizing line with
  | nil => simp [linesFrom]
  | cons c cs ih =>
    have hc : c ≠ '\n' := fun e => h (e ▸ List.mem_cons_self)
    have hcs : '\n' ∉ cs := fun m => h (List.mem_cons_of_mem c m)
    simp [linesFrom, hc, ih hcs]

theorem text?_ofString (s : String) : (ofString s).text? = some s := by
  have h : ∀ cs : List Char, (cs.map some).mapM id = some cs := by
    intro cs
    induction cs with
    | nil => rfl
    | cons c cs ih => simp [ih]
  simp [text?, ofString, h]

theorem text?_dropReturn (s : String) :
    ∃ t, (dropReturn (ofString s)).text? = some t ∧ (s = t ∨ s = t.push '\r') := by
  unfold dropReturn
  split
  case isFalse => exact ⟨s, text?_ofString s, .inl rfl⟩
  case isTrue h =>
    obtain ⟨front, hfront⟩ : ∃ front, s.toList = front ++ ['\r'] := by
      have hlast : s.toList.getLast? = some '\r' := by
        simpa [ofString, List.getLast?_map] using h
      exact List.getLast?_eq_some_iff.mp hlast
    refine ⟨String.ofList front, ?_, .inr ?_⟩
    · have hdrop : (ofString s).dropLast = ofString (String.ofList front) := by
        simp [ofString, hfront]
      rw [hdrop, text?_ofString]
    · rw [← String.toList_inj, hfront]
      simp

theorem lines_flatMap {texts : List String} (h : ∀ t ∈ texts, '\n' ∉ t.toList) :
    Content.lines ((texts.flatMap fun t => t.toList ++ ['\n']).map some) =
      texts.map fun t => dropReturn (ofString t) := by
  rw [lines]
  induction texts with
  | nil => rfl
  | cons t texts ih =>
    obtain ⟨ht, hrest⟩ := List.forall_mem_cons.mp h
    have hchars : ((t :: texts).flatMap fun t => t.toList ++ ['\n']).map some =
        t.toList.map some ++ some '\n' ::
          (texts.flatMap fun t => t.toList ++ ['\n']).map some := by simp
    rw [hchars, linesFrom_line _ ht, ih hrest]
    rfl

theorem dropReturn_ofString {s : String} (h : '\r' ∉ s.toList) :
    dropReturn (ofString s) = ofString s := by
  apply if_neg
  intro hlast
  have hmem : some '\r' ∈ ofString s := List.mem_of_getLast? hlast
  apply h
  simpa [ofString] using hmem

end Content

end Display3270
