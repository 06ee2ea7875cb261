import Mathlib.Data.List.DropRight
import Display3270.Screen.Snapshot

namespace Display3270

namespace Snapshot

def line (cells : List CellSnapshot) : List Char :=
  (cells.flatMap fun c => c.content.toList).rdropWhile (· == ' ')

theorem mem_of_mem_line {cells : List CellSnapshot} {c : Char} (h : c ∈ line cells) :
    ∃ cell ∈ cells, c ∈ cell.content.toList :=
  List.mem_flatMap.mp ((List.rdropWhile_prefix _ _).subset h)

theorem addRow_eq (shown : List Char) (cells : List CellSnapshot)
    (h : shown.dropWhile (· == ' ') = shown) :
    addRow shown cells = '\n' :: (line cells).reverse ++ shown := by
  rw [addRow, line, List.rdropWhile, List.reverse_reverse, List.dropWhile_append, h]
  split
  case isTrue hempty => rw [List.isEmpty_iff.mp hempty]; rfl
  case isFalse => rfl

theorem foldl_addRow (grid : List (List CellSnapshot)) (shown : List Char)
    (h : shown.dropWhile (· == ' ') = shown) :
    grid.foldl addRow shown =
      (grid.flatMap fun cells => line cells ++ ['\n']).reverse ++ shown := by
  induction grid generalizing shown with
  | nil => rfl
  | cons cells grid ih =>
    rw [List.foldl_cons, addRow_eq shown cells h, ih _ (by simp)]
    simp

theorem flatMap_blank {grid : List (List CellSnapshot)} (h : ∀ cells ∈ grid, line cells = []) :
    (grid.flatMap fun cells => line cells ++ ['\n']) = List.replicate grid.length '\n' := by
  induction grid with
  | nil => rfl
  | cons cells grid ih =>
    obtain ⟨hcells, hgrid⟩ := List.forall_mem_cons.mp h
    rw [List.flatMap_cons, hcells, ih hgrid]
    rfl

theorem oneLineFeed_replicate (n : Nat) (cs : List Char) :
    oneLineFeed (List.replicate n '\n' ++ '\n' :: cs) = oneLineFeed ('\n' :: cs) := by
  induction n with
  | zero => rfl
  | succ n ih =>
    cases n with
    | zero => rfl
    | succ n => exact ih

theorem oneLineFeed_of_ne {c : Char} (h : c ≠ '\n') (cs : List Char) :
    oneLineFeed ('\n' :: c :: cs) = '\n' :: c :: cs := by
  rw [oneLineFeed]
  simpa using h

theorem oneLineFeed_foldl_addRow (before after : List (List CellSnapshot))
    {last : List CellSnapshot} (hlast : line last ≠ []) (hfeed : '\n' ∉ line last)
    (hafter : ∀ cells ∈ after, line cells = []) :
    (oneLineFeed ((before ++ last :: after).foldl addRow [])).reverse =
      (before ++ [last]).flatMap fun cells => line cells ++ ['\n'] := by
  have hshown : (before ++ last :: after).foldl addRow [] =
      List.replicate after.length '\n' ++ '\n' :: ((line last).reverse ++
        (before.flatMap fun cells => line cells ++ ['\n']).reverse) := by
    rw [foldl_addRow _ [] rfl]
    simp [flatMap_blank hafter]
  obtain ⟨c, cs, hcs⟩ : ∃ c cs, (line last).reverse = c :: cs :=
    List.exists_cons_of_ne_nil (by simpa using hlast)
  have hc : c ≠ '\n' := by
    rintro rfl
    apply hfeed
    rw [← List.mem_reverse, hcs]
    exact List.mem_cons_self
  rw [hshown, oneLineFeed_replicate, hcs, List.cons_append, oneLineFeed_of_ne hc,
    ← List.cons_append, ← hcs]
  simp

theorem oneLineFeed_blank {grid : List (List CellSnapshot)} (hne : grid ≠ [])
    (hblank : ∀ cells ∈ grid, line cells = []) : oneLineFeed (grid.foldl addRow []) = ['\n'] := by
  obtain ⟨cells, rest, rfl⟩ := List.exists_cons_of_ne_nil hne
  rw [foldl_addRow _ [] rfl, flatMap_blank hblank, List.reverse_replicate, List.append_nil,
    List.length_cons, List.replicate_succ', oneLineFeed_replicate]
  rfl

theorem blank_or_last (grid : List (List CellSnapshot)) :
    (∀ cells ∈ grid, line cells = []) ∨
      ∃ before last after, grid = before ++ last :: after ∧ line last ≠ [] ∧
        ∀ cells ∈ after, line cells = [] := by
  induction grid with
  | nil => exact .inl (by simp)
  | cons cells grid ih =>
    rcases ih with hblank | ⟨before, last, after, rfl, hlast, hafter⟩
    · by_cases hcells : line cells = []
      · exact .inl (List.forall_mem_cons.mpr ⟨hcells, hblank⟩)
      · exact .inr ⟨[], cells, grid, rfl, hcells, hblank⟩
    · exact .inr ⟨cells :: before, last, after, rfl, hlast, hafter⟩

/-- The plain text of a snapshot without line feeds in its cells: every row from the first to the
last one that shows something, each with its line feed, and then the status line if it shows
something. Of rows that are all blank one line feed is left, and nothing if there are no rows. -/
theorem plain_rows (s : Snapshot)
    (h : ∀ cells ∈ s.grid, ∀ cell ∈ cells, '\n' ∉ cell.content.toList) :
    let status := trimEnd s.statusLine.toList
    let ending := if status = [] then [] else status ++ ['\n']
    (s.grid = [] ∧ s.plain.toList = ending) ∨
    (s.grid ≠ [] ∧ (∀ cells ∈ s.grid, line cells = []) ∧ s.plain.toList = '\n' :: ending) ∨
    ∃ before last after, s.grid = before ++ last :: after ∧ line last ≠ [] ∧
      (∀ cells ∈ after, line cells = []) ∧
      s.plain.toList =
        ((before ++ [last]).flatMap fun cells => line cells ++ ['\n']) ++ ending := by
  intro status ending
  have hplain : s.plain.toList = (oneLineFeed (s.grid.foldl addRow [])).reverse ++ ending := by
    simp only [plain, String.toList_ofList, List.isEmpty_iff, ending, status]
    split <;> simp
  rw [hplain]
  rcases blank_or_last s.grid with hblank | ⟨before, last, after, hgrid, hlast, hafter⟩
  · by_cases hne : s.grid = []
    · rw [hne]
      exact .inl ⟨rfl, rfl⟩
    · rw [oneLineFeed_blank hne hblank]
      exact .inr (.inl ⟨hne, hblank, rfl⟩)
  · have hfeed : '\n' ∉ line last := by
      intro hmem
      obtain ⟨cell, hcell, hc⟩ := mem_of_mem_line hmem
      exact h last (by simp [hgrid]) cell hcell hc
    refine .inr (.inr ⟨before, last, after, hgrid, hlast, hafter, ?_⟩)
    rw [hgrid, oneLineFeed_foldl_addRow before after hlast hfeed hafter]

theorem plain_rows_blank_first :
    let cell (content : String) : CellSnapshot := ⟨content, .green, .black, "none"⟩
    let grid := [[cell " ", cell " "], [cell " ", cell "é "], [cell " ", cell " "]]
    let s : Snapshot := ⟨3, 2, grid, .disabled, [], " READY \u3000"⟩
    (∀ cells ∈ s.grid, ∀ cell ∈ cells, '\n' ∉ cell.content.toList) ∧
      ∃ before last after, s.grid = before ++ last :: after ∧ line last ≠ [] ∧
        (∀ cells ∈ after, line cells = []) ∧
        s.plain.toList = ((before ++ [last]).flatMap fun cells => line cells ++ ['\n']) ++
          " READY\n".toList := by
  intro cell grid s
  have hfeed : ∀ cells ∈ s.grid, ∀ cell ∈ cells, '\n' ∉ cell.content.toList := by decide +kernel
  refine ⟨hfeed, ?_⟩
  rcases plain_rows s hfeed with ⟨hnil, -⟩ | ⟨-, hblank, -⟩ | hshown
  · cases hnil
  · exact absurd hblank (by decide +kernel)
  · have hending : trimEnd s.statusLine.toList = " READY".toList := by decide +kernel
    rw [hending] at hshown
    exact hshown

end Snapshot

end Display3270
