import Display3270.Proofs.Resync
import Display3270.Proofs.StatusTexts

namespace Display3270

def Cursor.placeChars (row column : UInt16) : List Char :=
  List.leftpad 3 '0' (Nat.toDigits 10 column.toNat) ++
    '/' :: List.leftpad 3 '0' (Nat.toDigits 10 row.toNat)

def Notice.shown? (n : Notice) : Option Cursor := n.cursor?.filter Cursor.isEnabled

namespace StatusField

theorem textFrom?_position (n : Notice) :
    position.textFrom? n = n.shown?.bind Cursor.position? := by
  cases n
  case screen update =>
    simp only [textFrom?, Notice.shown?, Notice.cursor?]
    cases update.cursor with
    | none => rfl
    | some cursor => cases cursor <;> rfl
  all_goals rfl

end StatusField

namespace Session

structure Located (s : Session) (shown : Option Cursor) : Prop where
  enabled : ∀ c ∈ shown, c.isEnabled = true
  cursor : s.screen.cursor = .disabled ∨ s.screen.cursor = shown.getD default
  position : s.status.get .position = (shown.bind Cursor.position?).getD ""

theorem located_create (rows cols : Nat) (fg bg : Color) :
    (create rows cols fg bg).Located none :=
  ⟨nofun, .inr rfl, rfl⟩

theorem Located.notify {s t : Session} {n : Notice} {events : List Event} {shown : Option Cursor}
    (hs : s.Located shown) (h : s.notify n = ⟨t, events, .ok ()⟩) :
    t.Located (n.shown?.or shown) := by
  have hcursor := notify_cursor h
  have hposition : t.status.get .position =
      (n.shown?.bind Cursor.position?).getD (s.status.get .position) := by
    rw [(notify_parts h).1, StatusLine.get_apply_texts, StatusField.textFrom?_position]
  simp only [Notice.shown?] at hposition ⊢
  cases hn : n.cursor? with
  | none =>
    rw [hn] at hcursor hposition
    obtain hkept := Option.some.inj hcursor
    refine ⟨hs.enabled, ?_, hposition.trans hs.position⟩
    rw [hkept]
    exact hs.cursor
  | some cursor =>
    rw [hn] at hcursor hposition
    obtain hplaced := Option.some.inj hcursor
    cases cursor with
    | disabled => exact ⟨hs.enabled, .inl hplaced, hposition.trans hs.position⟩
    | enabled row column =>
      refine ⟨?_, .inr hplaced, hposition⟩
      intro c hc
      obtain rfl := Option.some.inj hc
      rfl

theorem feed_located (rows cols : Nat) (fg bg : Color) (texts : List String) :
    let start := create rows cols fg bg
    (start.feed texts).1.Located ((start.history texts).filterMap Notice.shown?).getLast? := by
  refine feed_keeps (P := fun ns s => s.Located (ns.filterMap Notice.shown?).getLast?) ?_
    (located_create rows cols fg bg) texts
  intro before s t n events hs h
  rw [getLast?_filterMap_concat]
  exact hs.notify h

theorem Located.of_none {s : Session} (h : s.Located none) :
    (s.status.get .position).toList = [] ∧
      ∀ row column, s.screen.cursor = .enabled row column → row = 1 ∧ column = 1 := by
  refine ⟨by rw [h.position]; rfl, ?_⟩
  intro row column hplaced
  rcases h.cursor with hhidden | hdefault
  · cases hplaced.symm.trans hhidden
  · obtain ⟨hrow, hcolumn⟩ := Cursor.enabled.inj (hplaced.symm.trans hdefault)
    exact ⟨hrow, hcolumn⟩

theorem Located.of_some {s : Session} {c : Cursor} (h : s.Located (some c)) :
    ∃ row column, c = .enabled row column ∧
      (s.status.get .position).toList = Cursor.placeChars row column ∧
      (s.screen.cursor = .disabled ∨ s.screen.cursor = .enabled row column) := by
  cases c with
  | disabled => cases h.enabled .disabled rfl
  | enabled row column =>
    have hposition : (s.status.get .position).toList = Cursor.placeChars row column := by
      rw [h.position]
      exact String.toList_ofList
    exact ⟨row, column, rfl, hposition, h.cursor⟩

/-- The position field shows the place of the cursor, or where the cursor was before it was hidden.
It is empty until an update is applied that shows the cursor, and until then the cursor is in the
first cell unless it is hidden. -/
theorem feed_position (rows cols : Nat) (fg bg : Color) (texts : List String) :
    let start := create rows cols fg bg
    let last := (start.feed texts).1
    let shown := (start.history texts).filterMap Notice.shown?
    let position := (last.status.get .position).toList
    (∀ row column, last.screen.cursor = .enabled row column →
      if shown = [] then position = [] ∧ row = 1 ∧ column = 1
      else position = Cursor.placeChars row column) ∧
    (last.screen.cursor = .disabled →
      if shown = [] then position = []
      else ∃ row column, shown.getLast? = some (.enabled row column) ∧
        position = Cursor.placeChars row column) := by
  intro start last shown position
  have hlocated : last.Located shown.getLast? := feed_located rows cols fg bg texts
  by_cases hnone : shown = []
  · rw [List.getLast?_eq_none_iff.mpr hnone] at hlocated
    obtain ⟨hempty, hfirst⟩ := hlocated.of_none
    simp only [if_pos hnone]
    exact ⟨fun row column hplaced => ⟨hempty, hfirst row column hplaced⟩, fun _ => hempty⟩
  · obtain ⟨c, hlast⟩ := Option.ne_none_iff_exists'.mp (mt List.getLast?_eq_none_iff.mp hnone)
    rw [hlast] at hlocated
    obtain ⟨row, column, rfl, hposition, hcursor⟩ := hlocated.of_some
    simp only [if_neg hnone]
    refine ⟨?_, fun _ => ⟨row, column, hlast, hposition⟩⟩
    intro row' column' hplaced
    rcases hcursor with hhidden | hshown
    · cases hplaced.symm.trans hhidden
    · obtain ⟨rfl, rfl⟩ := Cursor.enabled.inj (hplaced.symm.trans hshown)
      exact hposition

theorem feed_position_hidden :
    let cursor := "\x7b\"screen\":\x7b\"cursor\":\x7b\"enabled\":"
    let placed := cursor ++ "true,\"row\":2,\"column\":3\x7d\x7d\x7d"
    let outside := cursor ++ "true,\"row\":9,\"column\":3\x7d\x7d\x7d"
    let hidden := cursor ++ "false\x7d\x7d\x7d"
    let s := ((create 2 4 .green .black).feed [placed, outside, hidden]).1
    s.screen.cursor = .disabled ∧ (s.status.get .position).toList = Cursor.placeChars 2 3 := by
  intro cursor placed outside hidden s
  have hhidden : s.screen.cursor = .disabled := by decide +kernel
  have hshown : ((create 2 4 .green .black).history [placed, outside, hidden]).filterMap
      Notice.shown? = [.enabled 2 3] := by decide +kernel
  have hposition := (feed_position 2 4 .green .black [placed, outside, hidden]).2 hhidden
  rw [hshown] at hposition
  obtain ⟨row, column, hlast, hposition⟩ := hposition
  obtain ⟨rfl, rfl⟩ := Cursor.enabled.inj (Option.some.inj hlast)
  exact ⟨hhidden, hposition⟩

end Session

end Display3270
