import Display3270.Proofs.Mirror

namespace Display3270

def Event.isScreen : Event → Bool
  | .cells .. | .cursor _ => true
  | _ => false

namespace Screen

def moments (s : Screen) : List Stroke → List Moment
  | [] => []
  | k :: ks => ⟨s.stroke k, (s.stroke k).changed k.row k.change⟩ :: moments (s.stroke k) ks

theorem moments_events (s : Screen) (ks : List Stroke) :
    (s.moments ks).map Moment.event = (s.draw ks).2 := by
  induction ks generalizing s with
  | nil => rfl
  | cons k ks ih => simp only [moments, List.map_cons, draw, ih]

theorem changed_inRange {s : Screen} (hf : s.Framed) {k : Stroke} (hk : s.Holds k) :
    Moment.InRange ⟨s, s.changed k.row k.change⟩ := by
  obtain ⟨hr, hc⟩ := hk
  have hrow : k.row < s.grid.length := by rw [hf.rows]; exact hr
  have hget : s.grid[k.row]? = some s.grid[k.row] := List.getElem?_eq_getElem hrow
  have hlen := hf.cols _ (List.getElem_mem hrow)
  simp only [Change.finish] at hc
  refine ⟨hr, Nat.le_add_right _ _, hc, ?_⟩
  simp only [row?, hget, Option.getD_some, List.length_take, List.length_drop, hlen, Change.finish]
  omega

theorem moments_inRange {s : Screen} (hf : s.Framed) (ks : List Stroke)
    (hk : ∀ k ∈ ks, s.Holds k) : ∀ p ∈ s.moments ks, p.InRange := by
  induction ks generalizing s with
  | nil => simp [moments]
  | cons k ks ih =>
    obtain ⟨hfirst, hrest⟩ := List.forall_mem_cons.mp hk
    exact List.forall_mem_cons.mpr ⟨changed_inRange (hf.stroke k) hfirst, ih (hf.stroke k) hrest⟩

theorem mem_rowEvents {first : Nat} {grid : List (List Cell)} {e : Event}
    (h : e ∈ rowEvents first grid) :
    ∃ i cells, i < grid.length ∧ cells ∈ grid ∧ e = .cells (first + i) 0 cells.length cells := by
  induction grid generalizing first with
  | nil => simp [rowEvents] at h
  | cons cells rest ih =>
    rcases List.mem_cons.mp h with rfl | h
    · exact ⟨0, cells, by simp, by simp, rfl⟩
    · obtain ⟨i, found, hi, hmem, rfl⟩ := ih h
      refine ⟨i + 1, found, by simpa using hi, by simp [hmem], ?_⟩
      congr 1
      omega

theorem redraw_inRange {s : Screen} (hf : s.Framed) {e : Event} (h : e ∈ s.redraw) :
    Moment.InRange ⟨s, e⟩ := by
  rcases List.mem_append.mp h with h | h
  · obtain ⟨i, cells, hi, hmem, rfl⟩ := mem_rowEvents h
    have hlen := hf.cols cells hmem
    have hrows := hf.rows
    change 0 + i < s.rows ∧ 0 ≤ cells.length ∧ cells.length ≤ s.cols ∧
      cells.length = cells.length - 0
    omega
  · obtain rfl := List.mem_singleton.mp h
    trivial

theorem erase_framed (s : Screen) (e : Erase) : (s.erase e).Framed := framed_blank _ _ _ _ _

theorem draw_isScreen (s : Screen) (ks : List Stroke) :
    ∀ e ∈ (s.draw ks).2, e.isScreen = true := by
  induction ks generalizing s with
  | nil => simp [draw]
  | cons k ks ih => exact List.forall_mem_cons.mpr ⟨rfl, ih (s.stroke k)⟩

theorem redraw_isScreen (s : Screen) : ∀ e ∈ s.redraw, e.isScreen = true := by
  intro e he
  rcases List.mem_append.mp he with he | he
  · obtain ⟨i, cells, -, -, rfl⟩ := mem_rowEvents he
    rfl
  · obtain rfl := List.mem_singleton.mp he
    rfl

theorem update_isScreen {s t : Screen} {u : ScreenUpdate} {events : List Event}
    (h : s.update u = ⟨t, events, .ok ()⟩) : ∀ e ∈ events, e.isScreen = true := by
  obtain ⟨-, -, -, rfl⟩ := update_ok h
  rw [List.forall_mem_append]
  refine ⟨s.draw_isScreen _, ?_⟩
  cases u.cursor with
  | none => exact List.forall_mem_nil _
  | some cursor => exact List.forall_mem_singleton.mpr rfl

end Screen

namespace StatusLine

theorem mem_events {texts : List (StatusField × String)} {e : Event} (h : e ∈ events texts) :
    ∃ f text, e = .status f text := by
  obtain ⟨t, -, rfl⟩ := List.mem_map.mp h
  exact ⟨t.1, t.2, rfl⟩

theorem watch_events {m : Mirror} {s : StatusLine} (h : ∀ f, m.text f = s.get f)
    (texts : List (StatusField × String)) :
    (m.watch (events texts)).cell? = m.cell? ∧ (m.watch (events texts)).cursor = m.cursor ∧
      ∀ f, (m.watch (events texts)).text f = (s.apply texts).get f := by
  induction texts generalizing m s with
  | nil => exact ⟨rfl, rfl, h⟩
  | cons t texts ih =>
    have hsee : ∀ f, (m.see (.status t.1 t.2)).text f = (s.set t.1 t.2).get f := by
      intro f
      rw [get_set]
      simp only [Mirror.see, h f]
    exact ih hsee

end StatusLine

def Notice.passes : Notice → Bool
  | .screenMode _ | .screen _ | .erase _ | .connection _ | .oia _ => false
  | _ => true

namespace Session

theorem notify_ok {s t : Session} {n : Notice} {events : List Event}
    (h : s.notify n = ⟨t, events, .ok ()⟩) :
    (∃ mode, n = .screenMode mode ∧
      t = ⟨s.screen.resize mode.rows.toNat mode.columns.toNat, s.status, s.connection, some mode⟩ ∧
      events = t.screen.redraw) ∨
    (∃ update screen told, n = .screen update ∧ s.screen.update update = ⟨screen, told, .ok ()⟩ ∧
      t = ⟨screen, s.status.apply ((update.cursor.map Cursor.texts).getD []), s.connection,
        s.screenMode⟩ ∧
      events = told ++ StatusLine.events ((update.cursor.map Cursor.texts).getD [])) ∨
    (∃ erase, n = .erase erase ∧
      t = ⟨s.screen.erase erase, s.status, s.connection, s.screenMode⟩ ∧
      events = t.screen.redraw) ∨
    (∃ connection, n = .connection connection ∧
      t = ⟨s.screen, s.status.apply connection.state.texts, some connection, s.screenMode⟩ ∧
      events = StatusLine.events connection.state.texts) ∨
    (∃ field, n = .oia field ∧
      t = ⟨s.screen, s.status.apply field.texts, s.connection, s.screenMode⟩ ∧
      events = StatusLine.events field.texts) ∨
    (n.passes = true ∧ t = s ∧ events = [.passthrough n]) := by
  cases n
  case screenMode mode =>
    cases h
    exact .inl ⟨mode, rfl, rfl, rfl⟩
  case screen update =>
    simp only [notify] at h
    rcases s.screen.update_cases update with ⟨screen, told, hu⟩ | ⟨e, hu⟩
    · rw [hu] at h
      cases h
      exact .inr (.inl ⟨update, screen, told, rfl, hu, rfl, rfl⟩)
    · rw [hu] at h
      cases h
  case erase erase =>
    cases h
    exact .inr (.inr (.inl ⟨erase, rfl, rfl, rfl⟩))
  case connection connection =>
    cases h
    exact .inr (.inr (.inr (.inl ⟨connection, rfl, rfl, rfl⟩)))
  case oia field =>
    cases h
    exact .inr (.inr (.inr (.inr (.inl ⟨field, rfl, rfl, rfl⟩))))
  all_goals
    cases h
    exact .inr (.inr (.inr (.inr (.inr ⟨rfl, rfl, rfl⟩))))

def notifyMoments (s : Session) : Notice → List Moment
  | .screen update =>
    let done := s.screen.update update
    match done.result with
    | .error _ => []
    | .ok () =>
      s.screen.moments (strokes update.rows) ++
        ((s.screen.applyCursor update.cursor).2 ++
          StatusLine.events ((update.cursor.map Cursor.texts).getD [])).map
            (Moment.mk done.screen)
  | n => (s.notify n).events.map (Moment.mk (s.notify n).session.screen)

def eachMoments (s : Session) : List Notice → List Moment
  | [] => []
  | n :: ns =>
    let first := s.notify n
    match first.result with
    | .error _ => []
    | .ok () => s.notifyMoments n ++ eachMoments first.session ns

def feed (s : Session) : List String → Session × List Event
  | [] => (s, [])
  | text :: texts =>
    let done := s.process text
    let (last, events) := feed done.session texts
    (last, done.events ++ events)

def feedMoments (s : Session) : List String → List Moment
  | [] => []
  | text :: texts =>
    (match Indication.decode text with
      | .error _ => []
      | .ok i => s.eachMoments i.leaves) ++ feedMoments (s.process text).session texts

theorem shows_ofSession {s : Session} (hf : s.screen.Framed) : (Mirror.ofSession s).Shows s where
  cells row hr col hc := by
    obtain ⟨cell, h⟩ := hf.cell_some hr hc
    exact ⟨cell, h, h⟩
  cursor := rfl
  texts _ := rfl

theorem shows_of_depicts {m : Mirror} {s : Session} (hf : s.screen.Framed)
    (hd : m.Depicts s.screen) (hc : m.cursor = s.screen.cursor)
    (ht : ∀ f, m.text f = s.status.get f) : m.Shows s where
  cells row hr col hcol := by
    obtain ⟨cell, h⟩ := hf.cell_some hr hcol
    exact ⟨cell, h, (hd row hr col hcol).trans h⟩
  cursor := hc
  texts := ht

theorem depicts_of_shows {m : Mirror} {s : Session} (h : m.Shows s) : m.Depicts s.screen := by
  intro row hr col hc
  obtain ⟨cell, hs, hm⟩ := h.cells row hr col hc
  exact hm.trans hs.symm

theorem watch_update {m : Mirror} {s t : Screen} {u : ScreenUpdate} {events : List Event}
    (hf : s.Framed) (hm : m.Depicts s) (hc : m.cursor = s.cursor)
    (h : s.update u = ⟨t, events, .ok ()⟩) :
    t.Framed ∧ (m.watch events).Depicts t ∧ (m.watch events).cursor = t.cursor ∧
      (m.watch events).text = m.text := by
  obtain ⟨-, -, rfl, rfl⟩ := Screen.update_ok h
  obtain ⟨hd, hcursor, htext⟩ := Screen.watch_draw hm (strokes u.rows)
  have hframed := hf.draw (strokes u.rows)
  rw [Mirror.watch_append]
  cases u.cursor with
  | none => exact ⟨hframed, hd, (hcursor.trans hc).trans (s.draw_cursor _).symm, htext⟩
  | some cursor => exact ⟨⟨hframed.rows, hframed.cols⟩, hd, rfl, htext⟩

theorem shows_redraw (m : Mirror) {t : Session} (hf : t.screen.Framed)
    (ht : ∀ f, m.text f = t.status.get f) : (m.watch t.screen.redraw).Shows t := by
  obtain ⟨hd, hc, htext⟩ := Screen.watch_redraw m hf
  exact shows_of_depicts hf hd hc fun f => (congrFun htext f).trans (ht f)

theorem shows_texts {m : Mirror} {screen : Screen} {status : StatusLine} (hf : screen.Framed)
    (hd : m.Depicts screen) (hc : m.cursor = screen.cursor) (ht : ∀ f, m.text f = status.get f)
    (texts : List (StatusField × String)) (connection : Option Connection)
    (mode : Option ScreenMode) :
    (m.watch (StatusLine.events texts)).Shows ⟨screen, status.apply texts, connection, mode⟩ := by
  obtain ⟨hcell, hcursor, htext⟩ := StatusLine.watch_events ht texts
  refine shows_of_depicts hf ?_ (hcursor.trans hc) htext
  intro row hr col hcol
  rw [hcell]
  exact hd row hr col hcol

theorem watch_notify {m : Mirror} {s t : Session} {n : Notice} {events : List Event}
    (hf : s.screen.Framed) (hm : m.Shows s) (h : s.notify n = ⟨t, events, .ok ()⟩) :
    t.screen.Framed ∧ (m.watch events).Shows t := by
  have hdepicts := depicts_of_shows hm
  rcases notify_ok h with ⟨mode, -, rfl, rfl⟩ | ⟨update, screen, told, -, hu, rfl, rfl⟩ |
    ⟨erase, -, rfl, rfl⟩ | ⟨connection, -, rfl, rfl⟩ | ⟨field, -, rfl, rfl⟩ | ⟨-, rfl, rfl⟩
  · have hframed := Screen.framed_blank mode.rows.toNat mode.columns.toNat s.screen.fg s.screen.bg
      s.screen.cursor
    exact ⟨hframed, shows_redraw m hframed hm.texts⟩
  · obtain ⟨hframed, hd, hc, ht⟩ := watch_update hf hdepicts hm.cursor hu
    rw [Mirror.watch_append]
    exact ⟨hframed,
      shows_texts hframed hd hc (fun f => (congrFun ht f).trans (hm.texts f)) _ _ _⟩
  · have hframed := s.screen.erase_framed erase
    exact ⟨hframed, shows_redraw m hframed hm.texts⟩
  · exact ⟨hf, shows_texts hf hdepicts hm.cursor hm.texts _ _ _⟩
  · exact ⟨hf, shows_texts hf hdepicts hm.cursor hm.texts _ _ _⟩
  · exact ⟨hf, hm⟩

theorem inRange_of_mem_events (screen : Screen) {texts : List (StatusField × String)} {e : Event}
    (h : e ∈ StatusLine.events texts) : Moment.InRange ⟨screen, e⟩ := by
  obtain ⟨f, text, rfl⟩ := StatusLine.mem_events h
  trivial

theorem mem_applyCursor {s : Screen} {cursor : Option Cursor} {e : Event}
    (h : e ∈ (s.applyCursor cursor).2) : ∃ c, e = .cursor c := by
  cases cursor with
  | none => cases h
  | some c => exact ⟨c, List.mem_singleton.mp h⟩

theorem map_event_mk (screen : Screen) (events : List Event) :
    (events.map (Moment.mk screen)).map Moment.event = events := by
  simp [Function.comp_def]

theorem updateMoments_spec {s : Session} {t : Screen} {u : ScreenUpdate} {told : List Event}
    (hf : s.screen.Framed) (h : s.screen.update u = ⟨t, told, .ok ()⟩) :
    (s.notifyMoments (.screen u)).map Moment.event =
        told ++ StatusLine.events ((u.cursor.map Cursor.texts).getD []) ∧
      ∀ p ∈ s.notifyMoments (.screen u), p.InRange := by
  obtain ⟨hk, -, -, htold⟩ := Screen.update_ok h
  have hcursor : ((s.screen.draw (strokes u.rows)).1.applyCursor u.cursor).2 =
      (s.screen.applyCursor u.cursor).2 := by cases u.cursor <;> rfl
  simp only [notifyMoments, h]
  constructor
  · rw [List.map_append, map_event_mk, Screen.moments_events, htold, hcursor, List.append_assoc]
  · intro p hp
    rcases List.mem_append.mp hp with hp | hp
    · exact Screen.moments_inRange hf _ hk p hp
    · obtain ⟨e, he, rfl⟩ := List.mem_map.mp hp
      rcases List.mem_append.mp he with he | he
      · obtain ⟨c, rfl⟩ := mem_applyCursor he
        trivial
      · exact inRange_of_mem_events _ he

theorem notifyMoments_spec {s t : Session} {n : Notice} {events : List Event}
    (hf : s.screen.Framed) (h : s.notify n = ⟨t, events, .ok ()⟩) :
    (s.notifyMoments n).map Moment.event = events ∧ ∀ p ∈ s.notifyMoments n, p.InRange := by
  rcases notify_ok h with ⟨mode, rfl, rfl, rfl⟩ | ⟨update, screen, told, rfl, hu, rfl, rfl⟩ |
    ⟨erase, rfl, rfl, rfl⟩ | ⟨connection, rfl, rfl, rfl⟩ | ⟨field, rfl, rfl, rfl⟩ | ⟨hp, rfl, rfl⟩
  · refine ⟨map_event_mk _ _, List.forall_mem_map.mpr fun e he => ?_⟩
    exact Screen.redraw_inRange (Screen.framed_blank _ _ _ _ _) he
  · exact updateMoments_spec hf hu
  · refine ⟨map_event_mk _ _, List.forall_mem_map.mpr fun e he => ?_⟩
    exact Screen.redraw_inRange (s.screen.erase_framed erase) he
  · exact ⟨map_event_mk _ _, List.forall_mem_map.mpr fun e he => inRange_of_mem_events _ he⟩
  · exact ⟨map_event_mk _ _, List.forall_mem_map.mpr fun e he => inRange_of_mem_events _ he⟩
  · have hm : t.notifyMoments n = [⟨t.screen, .passthrough n⟩] := by
      cases n <;> first | rfl | cases hp
    rw [hm]
    exact ⟨rfl, List.forall_mem_singleton.mpr trivial⟩

theorem watch_dispatchEach {m : Mirror} {s : Session} (hf : s.screen.Framed) (hm : m.Shows s)
    (ns : List Notice) :
    (s.dispatchEach ns).session.screen.Framed ∧
      (m.watch (s.dispatchEach ns).events).Shows (s.dispatchEach ns).session ∧
      (s.eachMoments ns).map Moment.event = (s.dispatchEach ns).events ∧
      ∀ p ∈ s.eachMoments ns, p.InRange := by
  -- the copy and the session change together, and the frame of the screen with them
  induction ns generalizing m s with
  | nil => exact ⟨hf, hm, rfl, by simp [eachMoments]⟩
  | cons n ns ih =>
    rcases s.dispatch_cases n with ⟨t, events, hn⟩ | ⟨e, hn⟩
    · have ht := s.dispatch_notice n ▸ hn
      obtain ⟨hft, hmt⟩ := watch_notify hf hm ht
      obtain ⟨hmap, hrange⟩ := notifyMoments_spec hf ht
      obtain ⟨hlast, hshows, hrest, hall⟩ := ih hft hmt
      rw [dispatchEach_cons_ok hn, Mirror.watch_append]
      simp only [eachMoments, ht, List.map_append, hmap, hrest]
      refine ⟨hlast, hshows, trivial, ?_⟩
      intro p hp
      rcases List.mem_append.mp hp with hp | hp
      · exact hrange p hp
      · exact hall p hp
    · have he := s.dispatch_notice n ▸ hn
      rw [dispatchEach_cons_error hn]
      simp only [eachMoments, he]
      exact ⟨hf, hm, rfl, by simp⟩

theorem watch_feed {m : Mirror} {s : Session} (hf : s.screen.Framed) (hm : m.Shows s)
    (texts : List String) :
    (m.watch (s.feed texts).2).Shows (s.feed texts).1 ∧
      (s.feedMoments texts).map Moment.event = (s.feed texts).2 ∧
      ∀ p ∈ s.feedMoments texts, p.InRange := by
  induction texts generalizing m s with
  | nil => exact ⟨hm, rfl, by simp [feedMoments]⟩
  | cons text texts ih =>
    have hp := s.process_eq text
    cases hd : Indication.decode text with
    | error e =>
      rw [hd] at hp
      simp only [feed, feedMoments, hp, hd]
      exact ih hf hm
    | ok i =>
      rw [hd] at hp
      obtain ⟨hft, hmt, hmap, hrange⟩ := watch_dispatchEach hf hm i.leaves
      obtain ⟨hlast, hrest, hall⟩ := ih hft hmt
      simp only [feed, feedMoments, hp, hd, Mirror.watch_append, List.map_append, hmap, hrest]
      refine ⟨hlast, trivial, ?_⟩
      intro p hmem
      rcases List.mem_append.mp hmem with hmem | hmem
      · exact hrange p hmem
      · exact hall p hmem

/-- A view that starts as a copy of a new session and sees nothing but its events stays exact after
every message, and what is told of cells always lies inside the screen. -/
theorem mirror_exact (rows cols : Nat) (fg bg : Color) (texts : List String) :
    let s := Session.create rows cols fg bg
    ((Mirror.ofSession s).watch (s.feed texts).2).Shows (s.feed texts).1 ∧
      (s.feedMoments texts).map Moment.event = (s.feed texts).2 ∧
      ∀ p ∈ s.feedMoments texts, p.InRange := by
  have hf : (Session.create rows cols fg bg).screen.Framed := Screen.framed_blank _ _ _ _ _
  exact watch_feed hf (shows_ofSession hf) texts

end Session

end Display3270
