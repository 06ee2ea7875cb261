import Display3270.Proofs.History

namespace Display3270

namespace StatusField

def initialText : StatusField → String
  | .reverseInput => ">"
  | _ => ""

def textFrom? : StatusField → Notice → Option String
  | .notUndera, .oia (.notUndera value) => some (if value then " " else "B")
  | .connection, .connection report => report.state.glyph?
  | .lock, .oia (.lock value) => some (value.getD "READY")
  | .compose, .oia (.compose true char type) =>
    some ((if type = some .ge then "G" else " ") ++ char.getD " ")
  | .compose, .oia (.compose false _ _) => some "       "
  | .typeahead, .oia (.typeahead value) => some (if value then "T" else " ")
  | .reverseInput, .oia (.reverseInput value) => some (if value then "<" else ">")
  | .insert, .oia (.insert value) => some (if value then "^" else " ")
  | .printer, .oia (.lu _ device) => some (if device.isSome then "P" else " ")
  | .screenTrace, .oia (.screenTrace value) => some (if value.any (0 < ·) then "t" else " ")
  | .script, .oia (.script value) => some (if value then "s" else " ")
  | .lu, .oia (.lu value _) => some value
  | .timing, .oia (.timing value) => some (value.getD "      ")
  | .position, .screen update => update.cursor.bind Cursor.position?
  | _, _ => none

end StatusField

namespace Notice

def texts : Notice → List (StatusField × String)
  | .screen update => (update.cursor.map Cursor.texts).getD []
  | .connection report => report.state.texts
  | .oia field => field.texts
  | _ => []

def textless : Notice → Bool
  | .screen update => !update.cursor.any Cursor.isEnabled
  | .connection report => report.state = .unknown
  | .oia field => field = .unknown
  | _ => true

def connection? : Notice → Option Connection
  | .connection report => some report
  | _ => none

def screenMode? : Notice → Option ScreenMode
  | .screenMode mode => some mode
  | _ => none

theorem texts_of_textless {n : Notice} (h : n.textless = true) : n.texts = [] := by
  cases n
  case screen update =>
    cases hc : update.cursor with
    | none => simp [texts, hc]
    | some cursor =>
      cases cursor with
      | disabled => simp [texts, hc, Cursor.texts, Cursor.position?]
      | enabled row column => simp [textless, hc, Cursor.isEnabled] at h
  case connection report =>
    have hstate : report.state = .unknown := by simpa [textless] using h
    simp [texts, ConnectionState.texts, hstate, ConnectionState.glyph?]
  case oia field =>
    obtain rfl : field = .unknown := by simpa [textless] using h
    rfl
  all_goals rfl

theorem parts_of_passes {n : Notice} (h : n.passes = true) :
    n.texts = [] ∧ n.connection? = none ∧ n.screenMode? = none := by
  cases n
  case screenMode | screen | erase | connection | oia => cases h
  all_goals exact ⟨rfl, rfl, rfl⟩

end Notice

namespace StatusLine

theorem get_initial (f : StatusField) : initial.get f = f.initialText := by
  cases f <;> rfl

theorem apply_nil (s : StatusLine) : s.apply [] = s := rfl

theorem get_apply_toList (s : StatusLine) (field : StatusField) (text : Option String)
    (f : StatusField) :
    (s.apply (text.map fun text => (field, text)).toList).get f =
      if f = field then text.getD (s.get f) else s.get f := by
  cases text with
  | none => simp [apply]
  | some text => simp [apply, get_set]

theorem get_apply_oia (s : StatusLine) (field : OiaField) (f : StatusField) :
    (s.apply field.texts).get f = (f.textFrom? (.oia field)).getD (s.get f) := by
  cases field
  case compose value char type =>
    cases value <;> cases f <;>
      simp [OiaField.texts, apply, get_set, StatusField.textFrom?, composeText, blanks]
  case notUndera value =>
    cases value <;> cases f <;>
      simp [OiaField.texts, apply, get_set, StatusField.textFrom?, flagText]
  case screenTrace value =>
    cases f <;> simp [OiaField.texts, apply, get_set, StatusField.textFrom?]
    cases value <;> simp [flagText, UInt64.lt_iff_toNat_lt]
  all_goals
    cases f <;>
      simp [OiaField.texts, apply, get_set, StatusField.textFrom?, flagText, readyText, blanks]

theorem get_apply_texts (s : StatusLine) (n : Notice) (f : StatusField) :
    (s.apply n.texts).get f = (f.textFrom? n).getD (s.get f) := by
  cases n
  case screen update =>
    cases hc : update.cursor with
    | none => cases f <;> simp [Notice.texts, hc, apply, StatusField.textFrom?]
    | some cursor =>
      have htexts : (Notice.screen update).texts =
          (cursor.position?.map fun text => (StatusField.position, text)).toList := by
        simp [Notice.texts, hc, Cursor.texts]
      rw [htexts, get_apply_toList]
      cases f <;> simp [StatusField.textFrom?, hc]
  case connection report =>
    simp only [Notice.texts, ConnectionState.texts, get_apply_toList]
    cases f <;> simp [StatusField.textFrom?]
  case oia field => exact s.get_apply_oia field f
  all_goals cases f <;> rfl

end StatusLine

namespace Session

theorem notify_parts {s t : Session} {n : Notice} {events : List Event}
    (h : s.notify n = ⟨t, events, .ok ()⟩) :
    t.status = s.status.apply n.texts ∧ t.connection = n.connection?.or s.connection ∧
      t.screenMode = n.screenMode?.or s.screenMode := by
  rcases notify_ok h with ⟨mode, rfl, rfl, -⟩ | ⟨update, screen, told, rfl, -, rfl, -⟩ |
    ⟨erase, rfl, rfl, -⟩ | ⟨connection, rfl, rfl, -⟩ | ⟨field, rfl, rfl, -⟩ | ⟨hp, rfl, -⟩
  · exact ⟨rfl, rfl, rfl⟩
  · exact ⟨rfl, rfl, rfl⟩
  · exact ⟨rfl, rfl, rfl⟩
  · exact ⟨rfl, rfl, rfl⟩
  · exact ⟨rfl, rfl, rfl⟩
  · obtain ⟨htexts, hconnection, hmode⟩ := Notice.parts_of_passes hp
    rw [htexts, hconnection, hmode]
    exact ⟨rfl, rfl, rfl⟩

theorem status_of_rejected_or_textless (s : Session) (n : Notice)
    (h : (∃ e, (s.dispatch (.notice n)).result = .error e) ∨ n.textless = true) :
    (s.dispatch (.notice n)).session.status = s.status := by
  rcases s.dispatch_cases n with ⟨t, events, hn⟩ | ⟨e, hn⟩
  · have ht := s.dispatch_notice n ▸ hn
    rw [hn] at h ⊢
    rcases h with ⟨e, h⟩ | h
    · cases h
    · rw [(notify_parts ht).1, Notice.texts_of_textless h, StatusLine.apply_nil]
  · rw [hn]

/-- Every status text is what the last applied notice about that field has made of it, whatever was
rejected or about something else in between, and so are the reports of the connection and of the
screen mode. -/
theorem feed_parts (rows cols : Nat) (fg bg : Color) (texts : List String) :
    let start := create rows cols fg bg
    let last := (start.feed texts).1
    (∀ f : StatusField, last.status.get f =
      (((start.history texts).filterMap f.textFrom?).getLast?).getD f.initialText) ∧
    last.connection = ((start.history texts).filterMap Notice.connection?).getLast? ∧
    last.screenMode = ((start.history texts).filterMap Notice.screenMode?).getLast? ∧
    ∀ (s : Session) (n : Notice),
      (∃ e, (s.dispatch (.notice n)).result = .error e) ∨ n.textless = true →
        (s.dispatch (.notice n)).session.status = s.status := by
  have happlied := applied_history (create rows cols fg bg) texts
  refine ⟨?_, ?_, ?_, status_of_rejected_or_textless⟩
  · intro f
    -- a text is there from the start, so that the part is never absent
    have hlast := Applied.last (fun s => some (s.status.get f)) f.textFrom? ?_ happlied
    · have hstart : (create rows cols fg bg).status = .initial := rfl
      rw [hstart, StatusLine.get_initial, Option.or_some] at hlast
      exact Option.some.inj hlast
    · intro s t n events h
      simp only [(notify_parts h).1, StatusLine.get_apply_texts, Option.or_some]
  · rw [Applied.last connection Notice.connection? (fun h => (notify_parts h).2.1) happlied]
    exact Option.or_none
  · rw [Applied.last screenMode Notice.screenMode? (fun h => (notify_parts h).2.2) happlied]
    exact Option.or_none

theorem feed_parts_outside :
    let s := ((create 2 4 .neutralWhite .neutralBlack).setTexts [(.position, "004/002")]).1
    let n := Notice.screen ⟨some (.enabled 3 1), []⟩
    (∃ e, (s.dispatch (.notice n)).result = .error e) ∧
      (s.dispatch (.notice n)).session.status = s.status := by
  intro s n
  have hrejected : ∃ e, (s.dispatch (.notice n)).result = .error e :=
    ⟨⟨.cursorOutside 3 1 2 4⟩, rfl⟩
  exact ⟨hrejected,
    (feed_parts 2 4 .neutralWhite .neutralBlack []).2.2.2 s n (.inl hrejected)⟩

end Session

end Display3270
