import Display3270.Proofs.Clusters
import Display3270.Proofs.Strokes

namespace Display3270

namespace Rendition

def all : Rendition := flags.foldl (fun acc flag => acc.union flag.1) empty

theorem all_contains_empty : all.contains empty = true := by
  decide

theorem all_contains_union {a b : Rendition} (ha : all.contains a = true)
    (hb : all.contains b = true) : all.contains (a.union b) = true := by
  simp only [contains, union, beq_iff_eq] at ha hb ⊢
  rw [Nat.and_or_distrib_left, ha, hb]

theorem all_contains_ofPart (part : List Char) : all.contains (ofPart part) = true := by
  have hflags : ∀ flag ∈ flags, all.contains flag.1 = true := by decide
  unfold ofPart ofName?
  cases hfind : flags.find? fun flag => flag.2 == String.ofList (trim part) with
  | none => exact all_contains_empty
  | some flag => exact hflags flag (List.mem_of_find?_eq_some hfind)

theorem all_contains_ofSpec (spec : String) : all.contains (ofSpec spec) = true := by
  have hfold : ∀ (parts : List (List Char)) (acc : Rendition), all.contains acc = true →
      all.contains (parts.foldl (fun acc part => acc.union (ofPart part)) acc) = true := by
    intro parts
    induction parts with
    | nil => exact fun acc hacc => hacc
    | cons part parts ih =>
      intro acc hacc
      exact ih _ (all_contains_union hacc (all_contains_ofPart part))
  unfold ofSpec
  split
  · exact all_contains_empty
  · exact hfold _ _ all_contains_empty

end Rendition

structure Cell.Proper (c : Cell) : Prop where
  filled : c.content ≠ ""
  single : graphemes c.content = [c.content]
  known : Rendition.all.contains c.gr = true

namespace Cell

theorem proper_blank (fg bg : Color) : (blank fg bg).Proper :=
  ⟨by simp [blank], graphemes_space, Rendition.all_contains_empty⟩

theorem Proper.repaint {c : Cell} (h : c.Proper) (fg bg : Option Color) (spec : Option String) :
    (c.repaint fg bg (spec.map Rendition.ofSpec)).Proper := by
  refine ⟨h.filled, h.single, ?_⟩
  cases spec with
  | none => exact h.known
  | some spec => exact Rendition.all_contains_ofSpec spec

theorem Proper.write {c : Cell} (h : c.Proper) {text g : String} (hg : g ∈ graphemes text) :
    (c.write g).Proper := by
  obtain ⟨hne, hsingle⟩ := single_of_mem_graphemes hg
  exact ⟨hne, hsingle, h.known⟩

end Cell

namespace Change

theorem proper_brushes (c : Change) {brush : Cell → Cell} (hb : brush ∈ c.brushes) {cell : Cell}
    (h : cell.Proper) : (brush cell).Proper := by
  unfold brushes at hb
  cases hp : c.payload with
  | count n =>
    rw [hp] at hb
    obtain ⟨-, rfl⟩ := List.mem_replicate.mp hb
    exact h.repaint _ _ _
  | text s =>
    rw [hp] at hb
    obtain ⟨g, hg, rfl⟩ := List.mem_map.mp hb
    exact (h.repaint _ _ _).write hg

theorem proper_paint {brushes : List (Cell → Cell)} {cells : List Cell}
    (hb : ∀ brush ∈ brushes, ∀ cell : Cell, cell.Proper → (brush cell).Proper)
    (hc : ∀ cell ∈ cells, cell.Proper) : ∀ cell ∈ paint brushes cells, cell.Proper := by
  induction brushes generalizing cells with
  | nil => simpa [paint] using hc
  | cons brush brushes ih =>
    cases cells with
    | nil => simp [paint]
    | cons cell cells =>
      obtain ⟨hbrush, hbrushes⟩ := List.forall_mem_cons.mp hb
      obtain ⟨hcell, hcells⟩ := List.forall_mem_cons.mp hc
      exact List.forall_mem_cons.mpr ⟨hbrush cell hcell, ih hbrushes hcells⟩

theorem proper_apply (c : Change) {cells : List Cell} (h : ∀ cell ∈ cells, cell.Proper) :
    ∀ cell ∈ c.apply cells, cell.Proper := by
  have hdrop : ∀ cell ∈ paint c.brushes (cells.drop c.start), cell.Proper := by
    apply proper_paint
    · exact fun brush hb cell hcell => c.proper_brushes hb hcell
    · exact fun cell hcell => h cell (List.mem_of_mem_drop hcell)
  intro cell hcell
  rcases List.mem_append.mp hcell with hcell | hcell
  · exact h cell (List.mem_of_mem_take hcell)
  · exact hdrop cell hcell

end Change

namespace Cursor

theorem cell?_eq_some_iff (c : Cursor) (rows cols : Nat) (place : Nat × Nat) :
    c.cell? rows cols = some place ↔
      ∃ row column, c = .enabled row column ∧ 1 ≤ row.toNat ∧ row.toNat ≤ rows ∧
        1 ≤ column.toNat ∧ column.toNat ≤ cols ∧ place = (row.toNat - 1, column.toNat - 1) := by
  cases c with
  | disabled => simp [cell?]
  | enabled row column =>
    simp only [cell?]
    constructor
    · intro h
      split at h
      case isTrue hin =>
        obtain ⟨hr, hrows, hc, hcols⟩ := hin
        exact ⟨row, column, rfl, hr, hrows, hc, hcols, (Option.some.inj h).symm⟩
      case isFalse => cases h
    · rintro ⟨row', column', he, hr, hrows, hc, hcols, rfl⟩
      obtain ⟨rfl, rfl⟩ := Cursor.enabled.inj he
      rw [if_pos ⟨hr, hrows, hc, hcols⟩]

end Cursor

namespace Screen

structure WellFormed (s : Screen) : Prop extends Framed s where
  cells : ∀ cells ∈ s.grid, ∀ cell ∈ cells, cell.Proper

theorem wellFormed_blank (rows cols : Nat) (fg bg : Color) (cursor : Cursor) :
    WellFormed ⟨rows, cols, blankGrid rows cols fg bg, fg, bg, cursor⟩ := by
  refine ⟨framed_blank rows cols fg bg cursor, ?_⟩
  intro cells hcells cell hcell
  obtain ⟨-, rfl⟩ := List.mem_replicate.mp hcells
  obtain ⟨-, rfl⟩ := List.mem_replicate.mp hcell
  exact Cell.proper_blank fg bg

theorem WellFormed.stroke {s : Screen} (h : s.WellFormed) (k : Stroke) :
    (s.stroke k).WellFormed := by
  refine ⟨h.toFramed.stroke k, ?_⟩
  intro cells hcells
  obtain ⟨i, hi, rfl⟩ := List.getElem_of_mem hcells
  simp only [Screen.stroke, change, List.length_modify] at hi
  have hold := h.cells _ (List.getElem_mem hi)
  simp only [Screen.stroke, change, List.getElem_modify]
  split
  · exact k.change.proper_apply hold
  · exact hold

theorem WellFormed.draw {s : Screen} (h : s.WellFormed) (ks : List Stroke) :
    (s.draw ks).1.WellFormed := by
  induction ks generalizing s with
  | nil => exact h
  | cons k ks ih => exact ih (h.stroke k)

theorem WellFormed.applyCursor {s : Screen} (h : s.WellFormed) (cursor : Option Cursor) :
    (s.applyCursor cursor).1.WellFormed := by
  cases cursor with
  | none => exact h
  | some cursor => exact ⟨⟨h.rows, h.cols⟩, h.cells⟩

inductive Call
  | resize (rows cols : Nat)
  | redraw
  | setCursor (cursor : Cursor)
  | erase (erase : Erase)
  | update (update : ScreenUpdate)

def call (s : Screen) : Call → Attempt
  | .resize rows cols => ⟨s.resize rows cols, (s.resize rows cols).redraw, .ok ()⟩
  | .redraw => ⟨s, s.redraw, .ok ()⟩
  | .setCursor cursor => ⟨s.setCursor cursor, [.cursor cursor], .ok ()⟩
  | .erase e => ⟨s.erase e, (s.erase e).redraw, .ok ()⟩
  | .update u => s.update u

def afterCalls (s : Screen) : List Call → Screen
  | [] => s
  | c :: cs => afterCalls (s.call c).screen cs

theorem WellFormed.call {s : Screen} (h : s.WellFormed) (c : Call) :
    (s.call c).screen.WellFormed := by
  cases c with
  | resize rows cols => exact wellFormed_blank _ _ _ _ _
  | redraw => exact h
  | setCursor cursor => exact h.applyCursor (some cursor)
  | erase e => exact wellFormed_blank _ _ _ _ _
  | update u =>
    rw [Screen.call]
    rcases s.update_cases u with ⟨t, events, hu⟩ | ⟨e, hu⟩
    · obtain ⟨-, -, rfl, -⟩ := update_ok hu
      rw [hu]
      exact (h.draw _).applyCursor _
    · rw [hu]
      exact h

theorem WellFormed.afterCalls {s : Screen} (h : s.WellFormed) (calls : List Call) :
    (s.afterCalls calls).WellFormed := by
  induction calls generalizing s with
  | nil => exact h
  | cons c cs ih => exact ih (h.call c)

theorem cursorCell?_eq_some_iff (s : Screen) (cell : Cell) :
    s.cursorCell? = some cell ↔
      ∃ row column, s.cursor = .enabled row column ∧ 1 ≤ row.toNat ∧ row.toNat ≤ s.rows ∧
        1 ≤ column.toNat ∧ column.toNat ≤ s.cols ∧
        s.cell? (row.toNat - 1) (column.toNat - 1) = some cell := by
  rw [cursorCell?, Option.bind_eq_some_iff]
  constructor
  · rintro ⟨place, hplace, hcell⟩
    obtain ⟨row, column, he, hr, hrows, hc, hcols, rfl⟩ :=
      (s.cursor.cell?_eq_some_iff s.rows s.cols place).mp hplace
    exact ⟨row, column, he, hr, hrows, hc, hcols, hcell⟩
  · rintro ⟨row, column, he, hr, hrows, hc, hcols, hcell⟩
    have hplace : s.cursor.cell? s.rows s.cols = some (row.toNat - 1, column.toNat - 1) :=
      (s.cursor.cell?_eq_some_iff s.rows s.cols _).mpr
        ⟨row, column, he, hr, hrows, hc, hcols, rfl⟩
    exact ⟨_, hplace, hcell⟩

theorem WellFormed.isSome_cursorCell?_iff {s : Screen} (h : s.WellFormed) :
    s.cursorCell?.isSome = true ↔
      ∃ row column, s.cursor = .enabled row column ∧ 1 ≤ row.toNat ∧ row.toNat ≤ s.rows ∧
        1 ≤ column.toNat ∧ column.toNat ≤ s.cols := by
  rw [Option.isSome_iff_exists]
  constructor
  · rintro ⟨cell, hcell⟩
    obtain ⟨row, column, he, hr, hrows, hc, hcols, -⟩ := (s.cursorCell?_eq_some_iff cell).mp hcell
    exact ⟨row, column, he, hr, hrows, hc, hcols⟩
  · rintro ⟨row, column, he, hr, hrows, hc, hcols⟩
    have hin : row.toNat - 1 < s.rows ∧ column.toNat - 1 < s.cols := by omega
    have hsome := (h.toFramed.isSome_cell?_iff _ _).mpr hin
    obtain ⟨cell, hcell⟩ := Option.isSome_iff_exists.mp hsome
    exact ⟨cell, (s.cursorCell?_eq_some_iff cell).mpr
      ⟨row, column, he, hr, hrows, hc, hcols, hcell⟩⟩

/-- Whatever is asked of a new screen, and whatever of it is rejected, the grid has as many rows and
columns as the screen says, and each of its cells holds one grapheme cluster and renditions that
have a name. There is a cell at every place of the screen and at no other, and one under the cursor
exactly if the cursor is shown inside the screen. -/
theorem afterCalls_wellFormed (rows cols : Nat) (fg bg : Color) (calls : List Call) :
    let s := (create rows cols fg bg).afterCalls calls
    s.WellFormed ∧
      (∀ row col, (s.cell? row col).isSome = true ↔ row < s.rows ∧ col < s.cols) ∧
      (s.cursorCell?.isSome = true ↔
        ∃ row column, s.cursor = .enabled row column ∧ 1 ≤ row.toNat ∧ row.toNat ≤ s.rows ∧
          1 ≤ column.toNat ∧ column.toNat ≤ s.cols) ∧
      ∀ cell, s.cursorCell? = some cell ↔
        ∃ row column, s.cursor = .enabled row column ∧ 1 ≤ row.toNat ∧ row.toNat ≤ s.rows ∧
          1 ≤ column.toNat ∧ column.toNat ≤ s.cols ∧
          s.cell? (row.toNat - 1) (column.toNat - 1) = some cell := by
  have h := (wellFormed_blank rows cols fg bg default).afterCalls calls
  exact ⟨h, h.toFramed.isSome_cell?_iff, h.isSome_cursorCell?_iff, cursorCell?_eq_some_iff _⟩

end Screen

end Display3270
