import Display3270.Proofs.Violations

namespace Display3270

namespace Change

theorem length_paint (fs : List (Cell → Cell)) (cells : List Cell) :
    (paint fs cells).length = cells.length := by
  induction fs generalizing cells with
  | nil => simp [paint]
  | cons f fs ih =>
    cases cells with
    | nil => simp [paint]
    | cons cell cells => simp [paint, ih]

theorem getElem?_paint_of_le (fs : List (Cell → Cell)) (cells : List Cell) (i : Nat)
    (h : fs.length ≤ i) : (paint fs cells)[i]? = cells[i]? := by
  induction fs generalizing cells i with
  | nil => simp [paint]
  | cons f fs ih =>
    cases cells with
    | nil => simp [paint]
    | cons cell cells =>
      obtain ⟨j, rfl⟩ : ∃ j, i = j + 1 := ⟨i - 1, by simp only [List.length_cons] at h; omega⟩
      simp only [paint, List.getElem?_cons_succ]
      exact ih cells j (by simpa using h)

theorem length_brushes (c : Change) : c.brushes.length = c.payload.length := by
  unfold brushes Payload.length
  cases c.payload <;> simp

theorem length_apply (c : Change) (cells : List Cell) : (c.apply cells).length = cells.length := by
  simp only [apply, List.length_append, length_paint, List.length_take, List.length_drop]
  omega

theorem getElem?_apply_of_outside (c : Change) (cells : List Cell) (i : Nat)
    (h : i < c.start ∨ c.finish ≤ i) : (c.apply cells)[i]? = cells[i]? := by
  unfold apply
  by_cases hi : i < (cells.take c.start).length
  · rw [List.getElem?_append_left hi, List.getElem?_take_of_lt (by simp at hi; omega)]
  · rw [List.getElem?_append_right (by omega)]
    simp only [List.length_take] at hi ⊢
    by_cases hs : cells.length ≤ c.start
    · have hd : cells.drop c.start = [] := List.drop_eq_nil_of_le hs
      rw [List.getElem?_eq_none (by simp [length_paint, hd]), List.getElem?_eq_none (by omega)]
    · have hm : min c.start cells.length = c.start := by omega
      rw [hm] at hi ⊢
      have hf : c.brushes.length ≤ i - c.start := by
        rw [length_brushes]
        simp only [finish] at h
        omega
      rw [getElem?_paint_of_le _ _ _ hf, List.getElem?_drop]
      congr 1
      omega

end Change

structure Stroke where
  row : Nat
  change : Change

def strokes (rs : List RowChanges) : List Stroke :=
  rs.flatMap fun r => r.changes.map (Stroke.mk (r.row.toNat - 1))

theorem strokes_append (rs qs : List RowChanges) : strokes (rs ++ qs) = strokes rs ++ strokes qs :=
  List.flatMap_append

theorem mem_strokes {rs : List RowChanges} {k : Stroke} :
    k ∈ strokes rs ↔ ∃ r ∈ rs, ∃ c ∈ r.changes, k = ⟨r.row.toNat - 1, c⟩ := by
  simp [strokes, eq_comm]

namespace Screen

structure Framed (s : Screen) : Prop where
  rows : s.grid.length = s.rows
  cols : ∀ cells ∈ s.grid, cells.length = s.cols

def stroke (s : Screen) (k : Stroke) : Screen := s.change k.row k.change

def draw (s : Screen) : List Stroke → Screen × List Event
  | [] => (s, [])
  | k :: ks =>
    let next := s.stroke k
    let (last, events) := draw next ks
    (last, next.changed k.row k.change :: events)

def Holds (s : Screen) (k : Stroke) : Prop :=
  k.row < s.rows ∧ k.change.finish ≤ s.cols

theorem draw_append (s : Screen) (ks js : List Stroke) :
    s.draw (ks ++ js) =
      (((s.draw ks).1.draw js).1, (s.draw ks).2 ++ ((s.draw ks).1.draw js).2) := by
  induction ks generalizing s with
  | nil => rfl
  | cons k ks ih => simp only [List.cons_append, draw, ih]

theorem applyChanges_eq_draw (s : Screen) (row : Nat) (cs : List Change) :
    s.applyChanges row cs = s.draw (cs.map (Stroke.mk row)) := by
  induction cs generalizing s with
  | nil => rfl
  | cons c cs ih => simp only [applyChanges, List.map_cons, draw, stroke, ih]

theorem applyRows_eq_draw (s : Screen) (rs : List RowChanges) :
    s.applyRows rs = s.draw (strokes rs) := by
  induction rs generalizing s with
  | nil => rfl
  | cons r rs ih =>
    simp only [applyRows, applyChanges_eq_draw, ih]
    simp only [strokes, List.flatMap_cons, draw_append]

theorem framed_blank (rows cols : Nat) (fg bg : Color) (cursor : Cursor) :
    Framed ⟨rows, cols, blankGrid rows cols fg bg, fg, bg, cursor⟩ := by
  constructor
  · simp [blankGrid]
  · intro cells h
    obtain ⟨-, rfl⟩ := List.mem_replicate.mp h
    simp

theorem Framed.stroke {s : Screen} (h : s.Framed) (k : Stroke) : (s.stroke k).Framed := by
  constructor
  · simp only [Screen.stroke, change, List.length_modify]
    exact h.rows
  · intro cells hc
    obtain ⟨i, hi, rfl⟩ := List.getElem_of_mem hc
    simp only [Screen.stroke, change, List.length_modify] at hi
    simp only [Screen.stroke, change, List.getElem_modify]
    split
    · rw [Change.length_apply]
      exact h.cols _ (List.getElem_mem hi)
    · exact h.cols _ (List.getElem_mem hi)

theorem Framed.draw {s : Screen} (h : s.Framed) (ks : List Stroke) : (s.draw ks).1.Framed := by
  induction ks generalizing s with
  | nil => exact h
  | cons k ks ih => exact ih (h.stroke k)

theorem Framed.isSome_cell?_iff {s : Screen} (h : s.Framed) (row col : Nat) :
    (s.cell? row col).isSome = true ↔ row < s.rows ∧ col < s.cols := by
  rw [cell?, row?]
  cases hrow : s.grid[row]? with
  | none =>
    have hle := List.getElem?_eq_none_iff.mp hrow
    rw [h.rows] at hle
    simp
    omega
  | some cells =>
    obtain ⟨hlt, rfl⟩ := List.getElem?_eq_some_iff.mp hrow
    have hcols := h.cols _ (List.getElem_mem hlt)
    rw [h.rows] at hlt
    simp [hcols, hlt]

theorem grid_eq {s t : Screen} (hlengths : s.grid.map List.length = t.grid.map List.length)
    (hcells : ∀ row col, s.cell? row col = t.cell? row col) : s.grid = t.grid := by
  apply List.ext_getElem?
  intro row
  have hlength : s.grid[row]?.map List.length = t.grid[row]?.map List.length := by
    rw [← List.getElem?_map, ← List.getElem?_map, hlengths]
  have hrow : ∀ col, s.grid[row]?.bind (·[col]?) = t.grid[row]?.bind (·[col]?) := hcells row
  cases hs : s.grid[row]? with
  | none =>
    rw [hs] at hlength
    exact (Option.map_eq_none_iff.mp hlength.symm).symm
  | some cells =>
    rw [hs] at hlength
    obtain ⟨others, ht, -⟩ := Option.map_eq_some_iff.mp hlength.symm
    rw [hs, ht] at hrow
    rw [ht]
    exact congrArg some (List.ext_getElem? hrow)

theorem eq_of_cells {s t : Screen} (hrows : s.rows = t.rows) (hcols : s.cols = t.cols)
    (hfg : s.fg = t.fg) (hbg : s.bg = t.bg) (hcursor : s.cursor = t.cursor)
    (hlengths : s.grid.map List.length = t.grid.map List.length)
    (hcells : ∀ row col, s.cell? row col = t.cell? row col) : s = t := by
  have hgrid := grid_eq hlengths hcells
  cases s
  cases t
  simp only at hrows hcols hfg hbg hcursor hgrid
  rw [hrows, hcols, hfg, hbg, hcursor, hgrid]

theorem checkRows_fits (s : Screen) (rs : List RowChanges) (h : s.checkRows rs = .ok ()) :
    ∀ r ∈ rs, 1 ≤ r.row.toNat ∧ r.row.toNat ≤ s.rows ∧ ∀ c ∈ r.changes, c.fits s.cols := by
  rw [checkRows_eq_firstError, firstError_eq_ok_iff] at h
  intro r hr
  obtain ⟨hfirst, hrows, hchanges⟩ :=
    (r.violations_eq_nil_iff s.rows s.cols).mp (List.flatMap_eq_nil_iff.mp h r hr)
  exact ⟨hfirst, hrows, fun c hc => (c.fits_iff s.cols).mpr (hchanges c hc)⟩

theorem checkRows_ok (s : Screen) (rs : List RowChanges) (h : s.checkRows rs = .ok ()) :
    ∀ k ∈ strokes rs, s.Holds k := by
  intro k hk
  obtain ⟨r, hr, c, hc, rfl⟩ := mem_strokes.mp hk
  obtain ⟨hfirst, hrows, hchanges⟩ := s.checkRows_fits rs h r hr
  have hfit := (Change.fits_iff c s.cols).mp (hchanges c hc)
  refine ⟨?_, hfit.2.2⟩
  simp only
  omega

theorem check_ok {s : Screen} {u : ScreenUpdate} (h : s.check u = .ok ()) :
    s.checkRows u.rows = .ok () ∧ s.checkCursor u.cursor = .ok () := by
  rw [check] at h
  cases hr : s.checkRows u.rows with
  | error e =>
    rw [hr] at h
    cases h
  | ok =>
    rw [hr] at h
    exact ⟨rfl, h⟩

theorem update_of_check_error {s : Screen} {u : ScreenUpdate} {e : ScreenError}
    (h : s.check u = .error e) : s.update u = ⟨s, [], .error e⟩ := by
  rw [update, h]

theorem update_of_check_ok {s : Screen} {u : ScreenUpdate} (h : s.check u = .ok ()) :
    s.update u = ⟨((s.draw (strokes u.rows)).1.applyCursor u.cursor).1,
      (s.draw (strokes u.rows)).2 ++ ((s.draw (strokes u.rows)).1.applyCursor u.cursor).2,
      .ok ()⟩ := by
  rw [update, h, applyRows_eq_draw]

theorem update_cases (s : Screen) (u : ScreenUpdate) :
    (∃ t events, s.update u = ⟨t, events, .ok ()⟩) ∨ ∃ e, s.update u = ⟨s, [], .error e⟩ := by
  cases h : s.check u with
  | error e => exact .inr ⟨e, update_of_check_error h⟩
  | ok => exact .inl ⟨_, _, update_of_check_ok h⟩

theorem check_of_update {s t : Screen} {u : ScreenUpdate} {events : List Event}
    (h : s.update u = ⟨t, events, .ok ()⟩) : s.check u = .ok () := by
  cases hc : s.check u with
  | error e =>
    rw [update_of_check_error hc] at h
    cases h
  | ok => rfl

theorem update_fits {s t : Screen} {u : ScreenUpdate} {events : List Event}
    (h : s.update u = ⟨t, events, .ok ()⟩) :
    ∀ r ∈ u.rows, 1 ≤ r.row.toNat ∧ r.row.toNat ≤ s.rows ∧ ∀ c ∈ r.changes, c.fits s.cols :=
  s.checkRows_fits u.rows (check_ok (check_of_update h)).1

theorem update_ok {s t : Screen} {u : ScreenUpdate} {events : List Event}
    (h : s.update u = ⟨t, events, .ok ()⟩) :
    (∀ k ∈ strokes u.rows, s.Holds k) ∧ s.checkCursor u.cursor = .ok () ∧
      t = ((s.draw (strokes u.rows)).1.applyCursor u.cursor).1 ∧
      events = (s.draw (strokes u.rows)).2 ++
        ((s.draw (strokes u.rows)).1.applyCursor u.cursor).2 := by
  have hcheck := check_of_update h
  obtain ⟨hrows, hcursor⟩ := check_ok hcheck
  rw [update_of_check_ok hcheck] at h
  cases h
  exact ⟨checkRows_ok s u.rows hrows, hcursor, rfl, rfl⟩

theorem draw_frame (s : Screen) (ks : List Stroke) :
    (s.draw ks).1 = ⟨s.rows, s.cols, (s.draw ks).1.grid, s.fg, s.bg, s.cursor⟩ := by
  induction ks generalizing s with
  | nil => rfl
  | cons k ks ih => exact ih (s.stroke k)

theorem update_frame {s t : Screen} {u : ScreenUpdate} {events : List Event}
    (h : s.update u = ⟨t, events, .ok ()⟩) :
    t.rows = s.rows ∧ t.cols = s.cols ∧ t.fg = s.fg ∧ t.bg = s.bg := by
  obtain ⟨-, -, rfl, -⟩ := update_ok h
  rw [draw_frame]
  cases u.cursor with
  | none => exact ⟨rfl, rfl, rfl, rfl⟩
  | some cursor => exact ⟨rfl, rfl, rfl, rfl⟩

end Screen

end Display3270
