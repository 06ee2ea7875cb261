import Display3270.Proofs.Renditions
import Display3270.Screen.Snapshot

namespace Display3270

def Screen.Named (s : Screen) : Prop :=
  ∀ cells ∈ s.grid, ∀ cell ∈ cells, Rendition.all.contains cell.gr = true

theorem Screen.WellFormed.named {s : Screen} (h : s.WellFormed) : s.Named := by
  intro cells hcells cell hcell
  exact (h.cells cells hcells cell hcell).known

theorem Screen.Framed.lengths {s : Screen} (h : s.Framed) :
    s.grid.map List.length = List.replicate s.rows s.cols := by
  apply List.eq_replicate_iff.mpr
  constructor
  · rw [List.length_map, h.rows]
  · intro n hn
    obtain ⟨cells, hcells, rfl⟩ := List.mem_map.mp hn
    exact h.cols cells hcells

theorem Screen.Framed.grid_eq_iff {a b : Screen} (ha : a.Framed) (hb : b.Framed)
    (hrows : a.rows = b.rows) (hcols : a.cols = b.cols) :
    a.grid = b.grid ↔ ∀ row < a.rows, ∀ col < a.cols, a.cell? row col = b.cell? row col := by
  constructor
  · intro h row _ col _
    rw [cell?, cell?, row?, row?, h]
  · intro h
    apply grid_eq
    · rw [ha.lengths, hb.lengths, hrows, hcols]
    · intro row col
      by_cases hin : row < a.rows ∧ col < a.cols
      · exact h row hin.1 col hin.2
      · have hanone := mt (ha.isSome_cell?_iff row col).mp hin
        rw [hrows, hcols] at hin
        have hbnone := mt (hb.isSome_cell?_iff row col).mp hin
        rw [Option.not_isSome_iff_eq_none.mp hanone, Option.not_isSome_iff_eq_none.mp hbnone]

def CellSnapshot.cell (c : CellSnapshot) : Cell := ⟨c.content, c.fg, c.bg, .ofSpec c.gr⟩

theorem CellSnapshot.cell_ofCell {c : Cell} (h : Rendition.all.contains c.gr = true) :
    (ofCell c).cell = c := by
  rw [cell, ofCell, Rendition.ofSpec_text h]

namespace Snapshot

theorem grid_capture {s : Screen} (h : s.Framed) (status : StatusLine) :
    (capture s status).grid = s.grid.map (List.map .ofCell) := by
  apply List.ext_getElem?
  intro row
  simp only [capture, List.getElem?_map, Screen.row?]
  by_cases hrow : row < s.rows
  · have hlt : row < s.grid.length := by
      rw [h.rows]
      exact hrow
    simp only [List.getElem?_range hrow, List.getElem?_eq_getElem hlt, Option.map_some,
      Option.getD_some]
  · have hle : s.grid.length ≤ row := by
      rw [h.rows]
      omega
    rw [List.getElem?_eq_none hle, List.getElem?_eq_none (by simpa using hrow)]
    rfl

theorem grid_capture_restored {s : Screen} (hf : s.Framed) (h : s.Named) (status : StatusLine) :
    (capture s status).grid.map (List.map CellSnapshot.cell) = s.grid := by
  rw [grid_capture hf, List.map_map]
  refine (List.map_congr_left ?_).trans (List.map_id s.grid)
  intro cells hcells
  rw [Function.comp_apply, List.map_map]
  refine (List.map_congr_left ?_).trans (List.map_id cells)
  intro cell hcell
  exact CellSnapshot.cell_ofCell (h cells hcells cell hcell)

theorem grid_capture_eq_iff {a b : Screen} (ha : a.Framed) (hb : b.Framed) (hna : a.Named)
    (hnb : b.Named) (s t : StatusLine) :
    (capture a s).grid = (capture b t).grid ↔ a.grid = b.grid := by
  constructor
  · intro h
    rw [← grid_capture_restored ha hna s, ← grid_capture_restored hb hnb t, h]
  · intro h
    rw [grid_capture ha, grid_capture hb, h]

theorem capture_framed {s : Screen} (h : s.Framed) (status : StatusLine) :
    (capture s status).grid.length = s.rows ∧
      ∀ cells ∈ (capture s status).grid, cells.length = s.cols := by
  constructor
  · rw [grid_capture h, List.length_map, h.rows]
  · intro cells hcells
    rw [grid_capture h] at hcells
    obtain ⟨row, hrow, rfl⟩ := List.mem_map.mp hcells
    rw [List.length_map, h.cols row hrow]

/-- Two captured screens have the same content exactly if they have the same size, the same cursor
and the same cell in every place, whatever their status and the colors of new cells: renditions that
have names are told apart by their text. Every screen that is reached has no others. -/
theorem sameContent_capture {a b : Screen} (ha : a.Framed) (hb : b.Framed) (hna : a.Named)
    (hnb : b.Named) (s t : StatusLine) :
    let x := capture a s
    let y := capture b t
    (x.sameContent y = true ↔ a.rows = b.rows ∧ a.cols = b.cols ∧ a.cursor = b.cursor ∧
      ∀ row < a.rows, ∀ col < a.cols, a.cell? row col = b.cell? row col) ∧
    (∀ p q : Rendition, Rendition.all.contains p = true → Rendition.all.contains q = true →
      p.text = q.text → p = q) ∧
    x.grid = a.grid.map (List.map .ofCell) ∧
    (x.grid.length = a.rows ∧ ∀ cells ∈ x.grid, cells.length = a.cols) ∧
    ∀ (rows cols : Nat) (fg bg : Color) (calls : List Screen.Call),
      let reached := (Screen.create rows cols fg bg).afterCalls calls
      reached.Framed ∧ reached.Named := by
  intro x y
  refine ⟨?_, fun p q hp hq => Rendition.text_inj hp hq, grid_capture ha s, capture_framed ha s,
    ?_⟩
  · have hparts : x.sameContent y = true ↔
        a.rows = b.rows ∧ a.cols = b.cols ∧ a.cursor = b.cursor ∧ x.grid = y.grid := by
      simp [sameContent, x, y, capture, and_assoc]
    rw [hparts, grid_capture_eq_iff ha hb hna hnb s t]
    constructor
    · rintro ⟨hrows, hcols, hcursor, hgrid⟩
      exact ⟨hrows, hcols, hcursor, (ha.grid_eq_iff hb hrows hcols).mp hgrid⟩
    · rintro ⟨hrows, hcols, hcursor, hcells⟩
      exact ⟨hrows, hcols, hcursor, (ha.grid_eq_iff hb hrows hcols).mpr hcells⟩
  · intro rows cols fg bg calls reached
    have hreached := (Screen.wellFormed_blank rows cols fg bg default).afterCalls calls
    exact ⟨hreached.toFramed, hreached.named⟩

theorem sameContent_capture_reordered :
    let drawn (fg : Color) (spec : String) : Screen :=
      (Screen.create 1 2 fg .black).afterCalls
        [.update ⟨none, [⟨1, [⟨1, .text "é", some .red, none, some spec⟩]⟩]⟩, .update ⟨none,
          [⟨1, [⟨2, .count 1, some .blue, none, none⟩]⟩]⟩]
    let a := drawn .green "blink,wide"
    let b := drawn .pink "wide, sparkle ,blink"
    let status := StatusLine.initial.set .lock "READY"
    a.Framed ∧ b.Framed ∧ a.Named ∧ b.Named ∧
      (capture a .initial).sameContent (capture b status) = true := by
  intro drawn a b status
  have hreached (fg : Color) (spec : String) : (drawn fg spec).WellFormed :=
    (Screen.wellFormed_blank 1 2 fg .black default).afterCalls _
  have ha := hreached .green "blink,wide"
  have hb := hreached .pink "wide, sparkle ,blink"
  have hcontent : a.rows = b.rows ∧ a.cols = b.cols ∧ a.cursor = b.cursor ∧
      ∀ row < a.rows, ∀ col < a.cols, a.cell? row col = b.cell? row col := by
    decide +kernel
  have hsame := sameContent_capture ha.toFramed hb.toFramed ha.named hb.named .initial status
  exact ⟨ha.toFramed, hb.toFramed, ha.named, hb.named, hsame.1.mpr hcontent⟩

end Snapshot

end Display3270
