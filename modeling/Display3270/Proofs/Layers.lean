import Display3270.Proofs.Resync

namespace Display3270

def Change.covers (c : Change) (col : Nat) : Bool :=
  c.column.toNat ≤ col + 1 && col + 1 < c.column.toNat + c.payload.length

def covering (rs : List RowChanges) (row col : Nat) : List Change :=
  rs.flatMap fun r =>
    if r.row.toNat = row + 1 then r.changes.filter fun c => c.covers col else []

theorem covering_cons (r : RowChanges) (rs : List RowChanges) (row col : Nat) :
    covering (r :: rs) row col =
      (if r.row.toNat = row + 1 then r.changes.filter fun c => c.covers col else []) ++
        covering rs row col :=
  List.flatMap_cons

theorem covering_append (rs qs : List RowChanges) (row col : Nat) :
    covering (rs ++ qs) row col = covering rs row col ++ covering qs row col :=
  List.flatMap_append

def Change.cluster? (c : Change) (col : Nat) : Option String :=
  match c.payload with
  | .count _ => none
  | .text text => (graphemes text)[col + 1 - c.column.toNat]?

namespace Cell

def under (cell : Cell) (col : Nat) (cs : List Change) : Cell :=
  ⟨(cs.filterMap (·.cluster? col)).getLast?.getD cell.content,
    (cs.filterMap (·.fg)).getLast?.getD cell.fg,
    (cs.filterMap (·.bg)).getLast?.getD cell.bg,
    ((cs.filterMap (·.gr)).getLast?.map Rendition.ofSpec).getD cell.gr⟩

theorem under_nil (cell : Cell) (col : Nat) : cell.under col [] = cell := rfl

theorem content_under_of_counts (cell : Cell) (col : Nat) {cs : List Change}
    (h : ∀ c ∈ cs, ∃ n, c.payload = .count n) : (cell.under col cs).content = cell.content := by
  have hnone : cs.filterMap (·.cluster? col) = [] := by
    apply List.filterMap_eq_nil_iff.mpr
    intro c hc
    obtain ⟨n, hn⟩ := h c hc
    rw [Change.cluster?, hn]
  rw [under, hnone]
  rfl

theorem under_append (cell : Cell) (col : Nat) (cs ds : List Change) :
    cell.under col (cs ++ ds) = (cell.under col cs).under col ds := by
  simp only [under, getLast?_filterMap_append, Option.getD_or, Option.map_or]

theorem under_singleton (cell : Cell) (col : Nat) (c : Change) :
    cell.under col [c] =
      ⟨(c.cluster? col).getD cell.content, c.fg.getD cell.fg, c.bg.getD cell.bg,
        (c.gr.map Rendition.ofSpec).getD cell.gr⟩ := by
  simp only [under, getLast?_filterMap_singleton]

end Cell

namespace Change

theorem covers_iff (c : Change) (col : Nat) (hfirst : 1 ≤ c.column.toNat) :
    c.covers col = true ↔ c.start ≤ col ∧ col < c.finish := by
  simp only [covers, start, finish, Bool.and_eq_true, decide_eq_true_eq]
  omega

theorem getElem?_paint {fs : List (Cell → Cell)} {f : Cell → Cell} (cells : List Cell) {i : Nat}
    (h : fs[i]? = some f) : (paint fs cells)[i]? = cells[i]?.map f := by
  induction fs generalizing cells i with
  | nil => cases h
  | cons g fs ih =>
    cases cells with
    | nil => rfl
    | cons cell cells =>
      cases i with
      | zero =>
        cases h
        rfl
      | succ i =>
        simp only [paint, List.getElem?_cons_succ]
        exact ih cells h

theorem getElem?_brushes (c : Change) (col : Nat) (hfirst : 1 ≤ c.column.toNat)
    (hcovers : c.covers col = true) :
    c.brushes[col - c.start]? = some fun cell => cell.under col [c] := by
  obtain ⟨hstart, hfinish⟩ := (c.covers_iff col hfirst).mp hcovers
  have hlength : col - c.start < c.payload.length := by
    unfold finish at hfinish
    omega
  have hcol : col + 1 - c.column.toNat = col - c.start := by
    unfold start
    omega
  simp only [Cell.under_singleton, cluster?, brushes, hcol]
  cases hpayload : c.payload with
  | count n =>
    rw [hpayload] at hlength
    exact List.getElem?_replicate_of_lt hlength
  | text text =>
    rw [hpayload] at hlength
    simp only [List.getElem?_map, List.getElem?_eq_getElem hlength]
    rfl

theorem getElem?_apply_of_covers (c : Change) (cells : List Cell) (col : Nat)
    (hfirst : 1 ≤ c.column.toNat) (hcovers : c.covers col = true) :
    (c.apply cells)[col]? = cells[col]?.map fun cell => cell.under col [c] := by
  obtain ⟨hstart, -⟩ := (c.covers_iff col hfirst).mp hcovers
  by_cases hcells : cells.length ≤ c.start
  · -- nothing is left of a row that ends before the change
    have hnone : cells[col]? = none := List.getElem?_eq_none (by omega)
    rw [hnone, Option.map_none]
    exact List.getElem?_eq_none (by rw [length_apply]; omega)
  · have htake : (cells.take c.start).length = c.start := by
      rw [List.length_take]
      omega
    rw [apply, List.getElem?_append_right (by omega), htake,
      getElem?_paint _ (c.getElem?_brushes col hfirst hcovers), List.getElem?_drop,
      Nat.add_sub_cancel' hstart]

theorem getElem?_apply (c : Change) (cells : List Cell) (col : Nat)
    (hfirst : 1 ≤ c.column.toNat) :
    (c.apply cells)[col]? =
      cells[col]?.map fun cell => cell.under col (if c.covers col then [c] else []) := by
  by_cases hcovers : c.covers col = true
  · rw [c.getElem?_apply_of_covers cells col hfirst hcovers, if_pos hcovers]
  · have houtside := mt (c.covers_iff col hfirst).mpr hcovers
    rw [c.getElem?_apply_of_outside cells col (by omega), if_neg hcovers]
    simp only [Cell.under_nil, Option.map_id']

theorem cluster?_of_covers {c : Change} {col : Nat} {text : String} (hfirst : 1 ≤ c.column.toNat)
    (hcovers : c.covers col = true) (htext : c.payload = .text text) :
    ∃ g, (graphemes text)[col + 1 - c.column.toNat]? = some g ∧ c.cluster? col = some g := by
  have hlength : col + 1 - c.column.toNat < (graphemes text).length := by
    obtain ⟨hstart, hfinish⟩ := (c.covers_iff col hfirst).mp hcovers
    simp only [start, finish, htext, Payload.length] at hstart hfinish
    omega
  refine ⟨_, List.getElem?_eq_getElem hlength, ?_⟩
  rw [cluster?, htext]
  exact List.getElem?_eq_getElem hlength

end Change

def strokesOver (ks : List Stroke) (row col : Nat) : List Change :=
  (ks.filter fun k => k.row == row && k.change.covers col).map (·.change)

theorem strokesOver_append (ks js : List Stroke) (row col : Nat) :
    strokesOver (ks ++ js) row col = strokesOver ks row col ++ strokesOver js row col := by
  simp only [strokesOver, List.filter_append, List.map_append]

theorem strokesOver_map (cs : List Change) (line row col : Nat) :
    strokesOver (cs.map (Stroke.mk line)) row col =
      if line = row then cs.filter fun c => c.covers col else [] := by
  by_cases hline : line = row
  · rw [if_pos hline, hline]
    simp [strokesOver, List.filter_map, Function.comp_def]
  · rw [if_neg hline]
    simp [strokesOver, List.filter_map, Function.comp_def, hline]

theorem strokesOver_strokes (rs : List RowChanges) (hrs : ∀ r ∈ rs, 1 ≤ r.row.toNat)
    (row col : Nat) : strokesOver (strokes rs) row col = covering rs row col := by
  induction rs with
  | nil => rfl
  | cons r rs ih =>
    obtain ⟨hr, hrest⟩ := List.forall_mem_cons.mp hrs
    have hline : r.row.toNat - 1 = row ↔ r.row.toNat = row + 1 := by omega
    have htail := ih hrest
    simp only [strokes, covering] at htail
    simp only [strokes, covering, List.flatMap_cons, strokesOver_append, strokesOver_map, htail,
      hline]

theorem covers_of_mem_covering {rs : List RowChanges} {row col : Nat} {c : Change}
    (hc : c ∈ covering rs row col) : c.covers col = true ∧ ∃ r ∈ rs, c ∈ r.changes := by
  obtain ⟨r, hr, hmem⟩ := List.mem_flatMap.mp hc
  split at hmem
  · obtain ⟨hchange, hcovers⟩ := List.mem_filter.mp hmem
    exact ⟨hcovers, r, hr, hchange⟩
  · cases hmem

namespace Screen

theorem cell?_stroke (s : Screen) (k : Stroke) (hfirst : 1 ≤ k.change.column.toNat)
    (row col : Nat) :
    (s.stroke k).cell? row col =
      (s.cell? row col).map fun cell => cell.under col (strokesOver [k] row col) := by
  have hover : strokesOver [k] row col =
      if k.row = row then (if k.change.covers col then [k.change] else []) else [] := by
    have hone := strokesOver_map [k.change] k.row row col
    rw [List.filter_singleton, Bool.cond_eq_ite] at hone
    exact hone
  simp only [cell?, row?, stroke, change, List.getElem?_modify, Option.map_eq_map, hover]
  by_cases hrow : k.row = row
  · cases s.grid[row]? with
    | none => rfl
    | some cells =>
      simp only [if_pos hrow]
      exact k.change.getElem?_apply cells col hfirst
  · simp only [if_neg hrow, Cell.under_nil, Option.map_id']

theorem cell?_draw (s : Screen) (ks : List Stroke)
    (hfirst : ∀ k ∈ ks, 1 ≤ k.change.column.toNat) (row col : Nat) :
    (s.draw ks).1.cell? row col =
      (s.cell? row col).map fun cell => cell.under col (strokesOver ks row col) := by
  induction ks generalizing s with
  | nil =>
    have hover : strokesOver [] row col = [] := rfl
    simp only [draw, hover, Cell.under_nil, Option.map_id']
  | cons k ks ih =>
    obtain ⟨hk, hks⟩ := List.forall_mem_cons.mp hfirst
    have hover : strokesOver (k :: ks) row col =
        strokesOver [k] row col ++ strokesOver ks row col := strokesOver_append [k] ks row col
    have hnext := ih (s.stroke k) hks
    rw [s.cell?_stroke k hk row col, Option.map_map] at hnext
    simp only [hover, Cell.under_append]
    exact hnext

theorem map_length_draw (s : Screen) (ks : List Stroke) :
    (s.draw ks).1.grid.map List.length = s.grid.map List.length := by
  induction ks generalizing s with
  | nil => rfl
  | cons k ks ih =>
    refine (ih (s.stroke k)).trans ?_
    apply List.ext_getElem?
    intro i
    simp only [stroke, change, List.getElem?_map, List.getElem?_modify, Option.map_eq_map,
      Option.map_map]
    congr 1
    funext cells
    simp only [Function.comp_apply]
    split
    · exact k.change.length_apply cells
    · rfl

theorem map_length_update {s t : Screen} {u : ScreenUpdate} {events : List Event}
    (h : s.update u = ⟨t, events, .ok ()⟩) : t.grid.map List.length = s.grid.map List.length := by
  obtain ⟨-, -, rfl, -⟩ := update_ok h
  rw [← s.map_length_draw (strokes u.rows)]
  cases u.cursor <;> rfl

theorem cell?_update {s t : Screen} {u : ScreenUpdate} {events : List Event}
    (h : s.update u = ⟨t, events, .ok ()⟩) (row col : Nat) :
    t.cell? row col =
      (s.cell? row col).map fun cell => cell.under col (covering u.rows row col) := by
  have hfits := update_fits h
  obtain ⟨-, -, rfl, -⟩ := update_ok h
  have hcursor : ((s.draw (strokes u.rows)).1.applyCursor u.cursor).1.cell? row col =
      (s.draw (strokes u.rows)).1.cell? row col := by
    cases u.cursor <;> rfl
  have hfirst : ∀ k ∈ strokes u.rows, 1 ≤ k.change.column.toNat := by
    intro k hk
    obtain ⟨r, hr, c, hc, rfl⟩ := mem_strokes.mp hk
    obtain ⟨-, -, hchanges⟩ := hfits r hr
    exact ((Change.fits_iff c s.cols).mp (hchanges c hc)).1
  rw [hcursor, s.cell?_draw (strokes u.rows) hfirst row col,
    strokesOver_strokes u.rows (fun r hr => (hfits r hr).1)]

/-- The cells after an update that is applied. Each part of a cell comes from the last of the
changes over it that bring one: a text brings a cluster to each cell that it covers, a count brings
none to any. What no change brings stays, and so does everything else but the cursor. -/
theorem update_layers {s t : Screen} {u : ScreenUpdate} {events : List Event}
    (h : s.update u = ⟨t, events, .ok ()⟩) :
    (t.rows = s.rows ∧ t.cols = s.cols ∧ t.grid.map List.length = s.grid.map List.length) ∧
    (t.fg = s.fg ∧ t.bg = s.bg) ∧ t.cursor = u.cursor.getD s.cursor ∧
    ∀ row col, let cs := covering u.rows row col
      (t.cell? row col = (s.cell? row col).map fun cell =>
        ⟨(cs.filterMap (·.cluster? col)).getLast?.getD cell.content,
          (cs.filterMap (·.fg)).getLast?.getD cell.fg,
          (cs.filterMap (·.bg)).getLast?.getD cell.bg,
          ((cs.filterMap (·.gr)).getLast?.map Rendition.ofSpec).getD cell.gr⟩) ∧
      (∀ c ∈ cs, ∀ text, c.payload = .text text →
        ∃ g, (graphemes text)[col + 1 - c.column.toNat]? = some g ∧ c.cluster? col = some g) ∧
      ((∀ c ∈ cs, ∃ n, c.payload = .count n) →
        (t.cell? row col).map (·.content) = (s.cell? row col).map (·.content)) ∧
      (cs = [] → t.cell? row col = s.cell? row col) := by
  have hfits := update_fits h
  have hcell := cell?_update h
  obtain ⟨hrows, hcols, hfg, hbg⟩ := update_frame h
  refine ⟨⟨hrows, hcols, map_length_update h⟩, ⟨hfg, hbg⟩, update_cursor h, fun row col => ?_⟩
  refine ⟨hcell row col, ?_, ?_, ?_⟩
  · intro c hc text htext
    obtain ⟨hcovers, r, hr, hchange⟩ := covers_of_mem_covering hc
    have hfit := (Change.fits_iff c s.cols).mp ((hfits r hr).2.2 c hchange)
    exact Change.cluster?_of_covers hfit.1 hcovers htext
  · intro hcounts
    simp only [hcell row col, Option.map_map, Function.comp_def,
      Cell.content_under_of_counts _ col hcounts]
  · intro hnil
    rw [hcell row col, hnil]
    simp only [Cell.under_nil, Option.map_id']

theorem update_layers_repeated :
    let s := create 2 4 .green .black
    let u : ScreenUpdate :=
      ⟨none, [⟨1, [⟨1, .text "abc", some .red, none, none⟩,
          ⟨2, .count 3, none, some .blue, some "blink"⟩]⟩,
        ⟨2, [⟨3, .count 2, some .pink, none, none⟩]⟩,
        ⟨1, [⟨3, .text "z", none, none, some "none"⟩]⟩]⟩
    ∃ t events, s.update u = ⟨t, events, .ok ()⟩ ∧
      t.cell? 0 1 = some ⟨"b", .red, .blue, ⟨2⟩⟩ ∧ t.cell? 0 2 = some ⟨"z", .red, .blue, .empty⟩ ∧
      t.cell? 1 3 = some ⟨" ", .pink, .black, .empty⟩ ∧ t.cursor = .enabled 1 1 := by
  intro s u
  obtain ⟨t, events, hu⟩ : ∃ t events, s.update u = ⟨t, events, .ok ()⟩ := ⟨_, _, rfl⟩
  obtain ⟨-, -, hcursor, hcell⟩ := update_layers hu
  refine ⟨t, events, hu, (hcell 0 1).1.trans ?_, (hcell 0 2).1.trans ?_, (hcell 1 3).1.trans ?_,
    hcursor⟩
  all_goals decide +kernel

end Screen

end Display3270
