import Display3270.Session
import Display3270.Proofs.History
import Display3270.Proofs.Indication.Records
import Display3270.Proofs.Json.Texts

namespace Display3270

open Record Reader

theorem Reader.natural_rereads {n : Nat} (h : n < Nat.pow 2 64) :
    (natural 64).Rereads (.natural n) n :=
  Reads.rereads (natural_ofJson 64 n h) rfl

theorem Color.rereads_json (c : Color) : reader.Rereads c.json c :=
  (carries.reads c).rereads rfl

namespace Cursor

theorem rereads_json (c : Cursor) : reader.Rereads c.json c := by
  have hparts : record.reader.Rereads c.json (.ok c) := by
    rw [json_eq]
    apply Rebuilds.rereads
    · apply (finds_members c).rebuilds
      cases c <;> simp [members, Json.word, Json.natural, Json.normal]
    · cases c <;> simp [members, Distinct]
  rw [Rereads] at hparts
  simp only [Rereads, reader, hparts]
  rfl

theorem prints_json (n : Nat) (c : Cursor) : c.json.Prints (n + 1) := by
  rw [json_eq]
  apply Json.prints_obj.mpr
  cases c <;> simp [members]

end Cursor

namespace CellSnapshot

theorem rereads_json (c : CellSnapshot) : reader.Rereads c.json c := by
  apply Rebuilds.rereads
  · refine .seq (.seq (.seq (.map (rebuilds_field (string_rereads _) ?_) _)
      (rebuilds_field (Color.rereads_json _) ?_)) (rebuilds_field (Color.rereads_json _) ?_))
      (rebuilds_field (string_rereads _) ?_)
    all_goals simp
  · simp [Distinct]

theorem prints_json (n : Nat) (c : CellSnapshot) : c.json.Prints (n + 1) := by
  apply Json.prints_obj.mpr
  simp

end CellSnapshot

structure Screen.Addressable (s : Screen) : Prop where
  rows : s.rows < Nat.pow 2 64
  cols : s.cols < Nat.pow 2 64

structure Snapshot.Sound (s : Snapshot) : Prop where
  rows : s.rows < Nat.pow 2 64
  cols : s.cols < Nat.pow 2 64
  status : Ordered s.status

namespace Snapshot

theorem rereads_grid (grid : List (List CellSnapshot)) :
    CellSnapshot.reader.list.list.Rereads
      (.arr (grid.map fun cells => .arr (cells.map CellSnapshot.json))) grid :=
  rereads_list (rereads_list CellSnapshot.rereads_json) grid

theorem rereads_status {status : List (String × String)} (h : Ordered status) :
    ((members string).map sortEntries).Rereads (.obj (status.map fun t => (t.1, .str t.2)))
      status := by
  have hentries := (rereads_members string_rereads status).map sortEntries
  rwa [sortEntries_of_ordered h] at hentries

theorem rereads_json {s : Snapshot} (h : s.Sound) : reader.Rereads s.json s := by
  apply Rebuilds.rereads
  · refine .seq (.seq (.seq (.seq (.seq (.map (rebuilds_field (natural_rereads h.rows) ?_) _)
      (rebuilds_field (natural_rereads h.cols) ?_)) (rebuilds_field (rereads_grid s.grid) ?_))
      (rebuilds_field s.cursor.rereads_json ?_)) (rebuilds_field (rereads_status h.status) ?_))
      (rebuilds_field (string_rereads s.statusLine) ?_)
    all_goals simp
  · simp [Distinct]

theorem prints_grid (n : Nat) (grid : List (List CellSnapshot)) :
    (Json.arr (grid.map fun cells => .arr (cells.map CellSnapshot.json))).Prints (n + 3) := by
  apply Json.prints_arr_map
  intro cells
  exact Json.prints_arr_map (fun c => c.prints_json n) cells

theorem prints_status (n : Nat) (status : List (String × String)) :
    (Json.obj (status.map fun t => (t.1, .str t.2))).Prints (n + 1) := by
  apply Json.prints_obj.mpr
  intro m hm
  obtain ⟨t, -, rfl⟩ := List.mem_map.mp hm
  exact Json.prints_str n t.2

theorem exact_json {s : Snapshot} (h : s.Sound) : s.json.Exact := by
  have hprints : s.json.Prints 4 := by
    apply Json.prints_obj.mpr
    simp [Json.prints_natural _ h.rows, Json.prints_natural _ h.cols, prints_grid,
      prints_status, s.cursor.prints_json]
  exact hprints.1

theorem ofText_text {s : Snapshot} (h : s.Sound) : ofText s.text = .ok s :=
  (rereads_json h).ofText (exact_json h).readAs Json.Spacing.blank_indented

theorem sound_capture {screen : Screen} (h : screen.Addressable) (status : StatusLine) :
    (capture screen status).Sound where
  rows := h.rows
  cols := h.cols
  status := by
    rw [capture]
    apply ordered_sortEntries

end Snapshot

namespace Session

theorem lt_of_word (w : UInt16) : w.toNat < Nat.pow 2 64 := Nat.lt_trans w.toNat_lt (by decide)

theorem lt_of_word? (w : Option UInt16) {n : Nat} (h : n < Nat.pow 2 64) :
    (w.map UInt16.toNat).getD n < Nat.pow 2 64 := by
  cases w with
  | none => exact h
  | some w => exact lt_of_word w

theorem notify_addressable {s t : Session} {n : Notice} {events : List Event}
    (hs : s.screen.Addressable) (h : s.notify n = ⟨t, events, .ok ()⟩) : t.screen.Addressable := by
  obtain ⟨hrows, hcols⟩ := hs
  rcases notify_screen h with ⟨mode, -, ht⟩ | ⟨update, told, -, hu⟩ | ⟨erase, -, ht⟩ | ⟨-, ht⟩
  · rw [ht]
    exact ⟨lt_of_word mode.rows, lt_of_word mode.columns⟩
  · obtain ⟨hr, hc, -⟩ := Screen.update_frame hu
    exact ⟨hr ▸ hrows, hc ▸ hcols⟩
  · rw [ht]
    exact ⟨lt_of_word? erase.rows hrows, lt_of_word? erase.cols hcols⟩
  · rw [ht]
    exact ⟨hrows, hcols⟩

/-- What is captured of a session at any time is read back from its text with every field as it
was, so that it shows the same content and prints the same plain text. -/
theorem ofText_snapshot (rows cols : UInt64) (fg bg : Color) (texts : List String) :
    let s := ((create rows.toNat cols.toNat fg bg).feed texts).1.snapshot
    ∃ t, Snapshot.ofText s.text = .ok t ∧ t = s ∧ s.sameContent t = true ∧ t.plain = s.plain := by
  intro s
  have hsize := feed_keeps (P := fun _ s => s.screen.Addressable) notify_addressable
    (s := create rows.toNat cols.toNat fg bg) ⟨rows.toNat_lt, cols.toNat_lt⟩ texts
  have hread : Snapshot.ofText s.text = .ok s :=
    Snapshot.ofText_text (Snapshot.sound_capture hsize _)
  have hsame : s.sameContent s = true := by simp [Snapshot.sameContent]
  exact ⟨s, hread, rfl, hsame, rfl⟩

end Session

end Display3270
