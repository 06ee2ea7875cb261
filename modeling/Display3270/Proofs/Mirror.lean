import Display3270.Proofs.Leaves
import Display3270.Proofs.Strokes

namespace Display3270

namespace StatusField

theorem all_index (f : StatusField) : all[f.index.val]? = some f := by
  cases f <;> rfl

theorem index_inj {f g : StatusField} (h : f.index.val = g.index.val) : f = g := by
  have hf := all_index f
  rw [h, all_index g] at hf
  exact (Option.some.inj hf).symm

end StatusField

namespace StatusLine

theorem get_set (s : StatusLine) (f g : StatusField) (text : String) :
    (s.set f text).get g = if g = f then text else s.get g := by
  simp only [set, get, Fin.getElem_fin, Vector.getElem_set]
  by_cases h : g = f
  · simp [h]
  · have hi : f.index.val ≠ g.index.val := fun he => h (StatusField.index_inj he).symm
    simp [h, hi]

end StatusLine

/-- A copy of what is shown; it knows nothing of the size of the screen. -/
structure Mirror where
  cell? : Nat → Nat → Option Cell
  cursor : Cursor
  text : StatusField → String

structure Moment where
  screen : Screen
  event : Event

def Moment.InRange (p : Moment) : Prop :=
  match p.event with
  | .cells row start finish cells =>
    row < p.screen.rows ∧ start ≤ finish ∧ finish ≤ p.screen.cols ∧ cells.length = finish - start
  | _ => True

namespace Mirror

def ofSession (s : Session) : Mirror := ⟨s.screen.cell?, s.screen.cursor, s.status.get⟩

def see (m : Mirror) : Event → Mirror
  | .cells row start finish cells =>
    ⟨fun r c => if r = row ∧ start ≤ c ∧ c < finish then cells[c - start]? else m.cell? r c,
      m.cursor, m.text⟩
  | .cursor cursor => ⟨m.cell?, cursor, m.text⟩
  | .status field text => ⟨m.cell?, m.cursor, fun f => if f = field then text else m.text f⟩
  | .attach | .detach | .passthrough _ => m

def watch (m : Mirror) (events : List Event) : Mirror := events.foldl see m

structure Shows (m : Mirror) (s : Session) : Prop where
  cells : ∀ row < s.screen.rows, ∀ col < s.screen.cols,
    ∃ cell, s.screen.cell? row col = some cell ∧ m.cell? row col = some cell
  cursor : m.cursor = s.screen.cursor
  texts : ∀ f, m.text f = s.status.get f

def Depicts (m : Mirror) (s : Screen) : Prop :=
  ∀ row < s.rows, ∀ col < s.cols, m.cell? row col = s.cell? row col

theorem watch_nil (m : Mirror) : m.watch [] = m := rfl

theorem watch_cons (m : Mirror) (e : Event) (es : List Event) :
    m.watch (e :: es) = (m.see e).watch es := rfl

theorem watch_append (m : Mirror) (es fs : List Event) :
    m.watch (es ++ fs) = (m.watch es).watch fs := List.foldl_append

end Mirror

namespace Screen

theorem Framed.cell_some {s : Screen} (h : s.Framed) {row col : Nat} (hr : row < s.rows)
    (hc : col < s.cols) : ∃ cell, s.cell? row col = some cell :=
  Option.isSome_iff_exists.mp ((h.isSome_cell?_iff row col).mpr ⟨hr, hc⟩)

theorem cell?_stroke_of_outside (s : Screen) (k : Stroke) (row col : Nat)
    (h : ¬(row = k.row ∧ k.change.start ≤ col ∧ col < k.change.finish)) :
    (s.stroke k).cell? row col = s.cell? row col := by
  simp only [cell?, row?, stroke, change, List.getElem?_modify]
  cases hcells : s.grid[row]? with
  | none => rfl
  | some cells =>
    by_cases hr : k.row = row
    · simp only [hr, ↓reduceIte, Option.map_eq_map, Option.map_some, Option.bind_some]
      exact k.change.getElem?_apply_of_outside cells col (by omega)
    · simp [hr]

theorem see_stroke {m : Mirror} {s : Screen} (h : m.Depicts s) (k : Stroke) :
    (m.see ((s.stroke k).changed k.row k.change)).Depicts (s.stroke k) := by
  intro row hr col hc
  simp only [changed, Mirror.see]
  by_cases hin : row = k.row ∧ k.change.start ≤ col ∧ col < k.change.finish
  · obtain ⟨rfl, hs, hf⟩ := hin
    rw [if_pos ⟨rfl, hs, hf⟩]
    have hlen : col - k.change.start < k.change.payload.length := by
      simp only [Change.finish] at hf
      omega
    rw [List.getElem?_take_of_lt hlen, List.getElem?_drop, Nat.add_sub_cancel' hs]
    unfold cell?
    cases (s.stroke k).row? k.row <;> rfl
  · rw [if_neg hin, s.cell?_stroke_of_outside k row col hin]
    exact h row hr col hc

theorem watch_draw {m : Mirror} {s : Screen} (h : m.Depicts s) (ks : List Stroke) :
    (m.watch (s.draw ks).2).Depicts (s.draw ks).1 ∧
      (m.watch (s.draw ks).2).cursor = m.cursor ∧ (m.watch (s.draw ks).2).text = m.text := by
  induction ks generalizing m s with
  | nil => exact ⟨h, rfl, rfl⟩
  | cons k ks ih => exact ih (see_stroke h k)

theorem draw_cursor (s : Screen) (ks : List Stroke) : (s.draw ks).1.cursor = s.cursor := by
  rw [draw_frame]

theorem watch_rowEvents_above (m : Mirror) (first : Nat) (grid : List (List Cell)) (row col : Nat)
    (h : row < first) : (m.watch (rowEvents first grid)).cell? row col = m.cell? row col := by
  induction grid generalizing m first with
  | nil => rfl
  | cons cells rest ih =>
    rw [rowEvents, Mirror.watch_cons, ih _ _ (by omega)]
    simp only [Mirror.see]
    rw [if_neg (by omega)]

theorem watch_rowEvents (m : Mirror) (first : Nat) (grid : List (List Cell)) (i col : Nat)
    (cells : List Cell) (hi : grid[i]? = some cells) (hc : col < cells.length) :
    (m.watch (rowEvents first grid)).cell? (first + i) col = cells[col]? := by
  induction grid generalizing m first i with
  | nil => simp at hi
  | cons head rest ih =>
    rw [rowEvents, Mirror.watch_cons]
    cases i with
    | zero =>
      obtain rfl : head = cells := by simpa using hi
      rw [watch_rowEvents_above _ _ _ _ _ (by omega)]
      simp [Mirror.see, hc]
    | succ i =>
      have hrow : first + (i + 1) = first + 1 + i := by omega
      rw [hrow]
      exact ih _ _ _ (by simpa using hi)

theorem watch_rowEvents_rest (m : Mirror) (first : Nat) (grid : List (List Cell)) :
    (m.watch (rowEvents first grid)).cursor = m.cursor ∧
      (m.watch (rowEvents first grid)).text = m.text := by
  induction grid generalizing m first with
  | nil => exact ⟨rfl, rfl⟩
  | cons cells rest ih => exact ih _ _

theorem watch_redraw (m : Mirror) {s : Screen} (h : s.Framed) :
    (m.watch s.redraw).Depicts s ∧ (m.watch s.redraw).cursor = s.cursor ∧
      (m.watch s.redraw).text = m.text := by
  have hrest := watch_rowEvents_rest m 0 s.grid
  rw [redraw, Mirror.watch_append]
  refine ⟨?_, rfl, hrest.2⟩
  intro row hr col hc
  have hrow : row < s.grid.length := by rw [h.rows]; exact hr
  have hget : s.grid[row]? = some s.grid[row] := List.getElem?_eq_getElem hrow
  have hlen : col < s.grid[row].length := by rw [h.cols _ (List.getElem_mem hrow)]; exact hc
  have hsee := watch_rowEvents m 0 s.grid row col _ hget hlen
  rw [Nat.zero_add] at hsee
  simp only [Mirror.watch_cons, Mirror.watch_nil, Mirror.see, hsee, cell?, row?, hget,
    Option.bind_some]

end Screen

end Display3270
