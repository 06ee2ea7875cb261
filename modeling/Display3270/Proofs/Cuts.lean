import Display3270.Proofs.Strokes

namespace Display3270

/-- Some rows are told in two parts: cut between two of them, or within the changes of one. -/
inductive RowChanges.Cut : List RowChanges → List RowChanges → List RowChanges → Prop
  | between (rs qs : List RowChanges) : Cut (rs ++ qs) rs qs
  | within (rs qs : List RowChanges) (row : UInt16) (cs ds : List Change) :
    Cut (rs ++ ⟨row, cs ++ ds⟩ :: qs) (rs ++ [⟨row, cs⟩]) (⟨row, ds⟩ :: qs)

open RowChanges (Cut)

theorem strokes_cut {whole first rest : List RowChanges} (h : Cut whole first rest) :
    strokes whole = strokes first ++ strokes rest := by
  cases h with
  | between => exact strokes_append first rest
  | within rs qs row cs ds =>
    simp only [strokes, List.flatMap_append, List.flatMap_cons, List.flatMap_nil, List.map_append,
      List.append_nil, List.append_assoc]

namespace Screen

theorem checkChanges_append (s : Screen) (row : UInt16) (cs ds : List Change) :
    s.checkChanges row (cs ++ ds) = (do s.checkChanges row cs; s.checkChanges row ds) := by
  simp only [checkChanges_eq_firstError, List.flatMap_append, firstError_append]

theorem checkRows_append (s : Screen) (rs qs : List RowChanges) :
    s.checkRows (rs ++ qs) = (do s.checkRows rs; s.checkRows qs) := by
  simp only [checkRows_eq_firstError, List.flatMap_append, firstError_append]

theorem checkRows_within (s : Screen) (row : UInt16) (cs ds : List Change)
    (qs : List RowChanges) :
    s.checkRows (⟨row, cs ++ ds⟩ :: qs) =
      (do s.checkRows [⟨row, cs⟩]; s.checkRows (⟨row, ds⟩ :: qs)) := by
  simp only [checkRows, checkChanges_append]
  -- the number of the row is looked at twice, but what is wrong with it is found the first time
  split
  · rfl
  · cases s.checkChanges row cs <;> rfl

theorem checkRows_cut (s : Screen) {whole first rest : List RowChanges}
    (h : Cut whole first rest) :
    s.checkRows whole = (do s.checkRows first; s.checkRows rest) := by
  cases h with
  | between => exact s.checkRows_append first rest
  | within rs qs row cs ds =>
    rw [checkRows_append, checkRows_append, checkRows_within, bind_assoc]

theorem check_draw (s : Screen) (ks : List Stroke) (u : ScreenUpdate) :
    (s.draw ks).1.check u = s.check u := by
  apply check_congr
  · rw [draw_frame]
  · rw [draw_frame]

theorem check_cut (s : Screen) (cursor : Option Cursor) {whole first rest : List RowChanges}
    (h : Cut whole first rest) :
    s.check ⟨cursor, whole⟩ = (do s.check ⟨none, first⟩; s.check ⟨cursor, rest⟩) := by
  simp only [check, s.checkRows_cut h]
  cases s.checkRows first <;> rfl

theorem update_cut_of_error {s : Screen} (cursor : Option Cursor)
    {whole first rest : List RowChanges} (h : Cut whole first rest) {e : ScreenError}
    (hfirst : s.update ⟨none, first⟩ = ⟨s, [], .error e⟩) :
    s.update ⟨cursor, whole⟩ = ⟨s, [], .error e⟩ := by
  have hcheck : s.check ⟨none, first⟩ = .error e := by
    rwa [check_eq_firstError, firstError_eq_error_iff, ← update_eq_error_iff]
  apply update_of_check_error
  rw [s.check_cut cursor h, hcheck]
  rfl

theorem update_cut_of_ok {s mid : Screen} (cursor : Option Cursor)
    {whole first rest : List RowChanges} (h : Cut whole first rest) {told : List Event}
    (hfirst : s.update ⟨none, first⟩ = ⟨mid, told, .ok ()⟩) :
    let after := mid.update ⟨cursor, rest⟩
    s.update ⟨cursor, whole⟩ = match after.result with
      | .ok () => ⟨after.screen, told ++ after.events, .ok ()⟩
      | .error e => ⟨s, [], .error e⟩ := by
  have hcheck := check_of_update hfirst
  obtain ⟨-, -, rfl, rfl⟩ := update_ok hfirst
  have hwhole := s.check_cut cursor h
  rw [hcheck, ← s.check_draw (strokes first) ⟨cursor, rest⟩] at hwhole
  cases hrest : (s.draw (strokes first)).1.check ⟨cursor, rest⟩ with
  | error e =>
    rw [hrest] at hwhole
    simp only [update_of_check_error hwhole, applyCursor, update_of_check_error hrest]
  | ok =>
    rw [hrest] at hwhole
    simp only [update_of_check_ok hwhole, applyCursor, update_of_check_ok hrest, strokes_cut h,
      draw_append, List.append_nil, List.append_assoc]

/-- An update is the same as its two parts, one after the other, wherever it is cut; the cursor
comes with the second part. It is applied exactly if both parts are, with the same screen and the
same events; if not, its error is that of the first part that is rejected. -/
theorem update_parts (s : Screen) (cursor : Option Cursor) {whole first rest : List RowChanges}
    (h : Cut whole first rest) :
    (∀ t events, s.update ⟨cursor, whole⟩ = ⟨t, events, .ok ()⟩ ↔
      ∃ mid told more, s.update ⟨none, first⟩ = ⟨mid, told, .ok ()⟩ ∧
        mid.update ⟨cursor, rest⟩ = ⟨t, more, .ok ()⟩ ∧ events = told ++ more) ∧
    ∀ e, s.update ⟨cursor, whole⟩ = ⟨s, [], .error e⟩ ↔
      s.update ⟨none, first⟩ = ⟨s, [], .error e⟩ ∨
        ∃ mid told, s.update ⟨none, first⟩ = ⟨mid, told, .ok ()⟩ ∧
          mid.update ⟨cursor, rest⟩ = ⟨mid, [], .error e⟩ := by
  rcases s.update_cases ⟨none, first⟩ with ⟨mid, told, hfirst⟩ | ⟨e, hfirst⟩
  · rw [hfirst, update_cut_of_ok cursor h hfirst]
    rcases mid.update_cases ⟨cursor, rest⟩ with ⟨t, more, hrest⟩ | ⟨e, hrest⟩
    · simp [hrest, eq_comm, and_assoc]
    · simp [hrest]
  · simp [hfirst, update_cut_of_error cursor h hfirst]

theorem update_parts_within :
    let s := create 1 4 .green .black
    let a : Change := ⟨1, .text "abc", some .red, none, none⟩
    let b : Change := ⟨2, .count 3, none, some .blue, some "blink"⟩
    let cursor : Option Cursor := some (.enabled 1 4)
    Cut [⟨1, [a, b]⟩] [⟨1, [a]⟩] [⟨1, [b]⟩] ∧
      ∃ t mid told more, s.update ⟨none, [⟨1, [a]⟩]⟩ = ⟨mid, told, .ok ()⟩ ∧
        mid.update ⟨cursor, [⟨1, [b]⟩]⟩ = ⟨t, more, .ok ()⟩ ∧
        s.update ⟨cursor, [⟨1, [a, b]⟩]⟩ = ⟨t, told ++ more, .ok ()⟩ := by
  intro s a b cursor
  have hcut : Cut [⟨1, [a, b]⟩] [⟨1, [a]⟩] [⟨1, [b]⟩] := .within [] [] 1 [a] [b]
  obtain ⟨t, events, hwhole⟩ :
      ∃ t events, s.update ⟨cursor, [⟨1, [a, b]⟩]⟩ = ⟨t, events, .ok ()⟩ := ⟨_, _, rfl⟩
  obtain ⟨mid, told, more, hfirst, hrest, rfl⟩ :=
    ((update_parts s cursor hcut).1 t events).mp hwhole
  exact ⟨hcut, t, mid, told, more, hfirst, hrest, hwhole⟩

end Screen

end Display3270
