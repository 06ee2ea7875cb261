import Mathlib.Data.List.Forall2
import Display3270.Proofs.History

namespace Display3270

def Event.isCells : Event → Bool
  | .cells .. => true
  | _ => false

def Notice.cursor? : Notice → Option Cursor
  | .screen update => update.cursor
  | _ => none

namespace Screen

structure SameGrid (a b : Screen) : Prop where
  rows : a.rows = b.rows
  cols : a.cols = b.cols
  grid : a.grid = b.grid
  fg : a.fg = b.fg
  bg : a.bg = b.bg

theorem SameGrid.eq_setCursor {a b : Screen} (h : SameGrid a b) : a = b.setCursor a.cursor := by
  obtain ⟨rows, cols, grid, fg, bg, cursor⟩ := a
  obtain ⟨rfl, rfl, rfl, rfl, rfl⟩ := h
  rfl

theorem SameGrid.resize {a b : Screen} (h : SameGrid a b) (rows cols : Nat) :
    SameGrid (a.resize rows cols) (b.resize rows cols) := by
  rw [h.eq_setCursor]
  exact ⟨rfl, rfl, rfl, rfl, rfl⟩

theorem SameGrid.erase {a b : Screen} (h : SameGrid a b) (e : Erase) :
    SameGrid (a.erase e) (b.erase e) := by
  rw [h.eq_setCursor]
  exact ⟨rfl, rfl, rfl, rfl, rfl⟩

theorem sameGrid_erase (a b : Screen) (rows cols : UInt16) (fg bg : Color) :
    SameGrid (a.erase ⟨some rows, some cols, some fg, some bg⟩)
      (b.erase ⟨some rows, some cols, some fg, some bg⟩) :=
  ⟨rfl, rfl, rfl, rfl, rfl⟩

theorem SameGrid.redraw_cells {a b : Screen} (h : SameGrid a b) :
    a.redraw.filter Event.isCells = b.redraw.filter Event.isCells := by
  simp only [redraw, h.grid, List.filter_append]
  rfl

theorem check_setCursor (s : Screen) (cursor : Cursor) (u : ScreenUpdate) :
    (s.setCursor cursor).check u = s.check u := by
  apply check_congr
  · rfl
  · rfl

theorem draw_setCursor (s : Screen) (cursor : Cursor) (ks : List Stroke) :
    (s.setCursor cursor).draw ks = ((s.draw ks).1.setCursor cursor, (s.draw ks).2) := by
  induction ks generalizing s with
  | nil => rfl
  | cons k ks ih =>
    have hstroke : (s.setCursor cursor).stroke k = (s.stroke k).setCursor cursor := rfl
    simp only [draw, hstroke, ih]
    rfl

theorem SameGrid.update {a b : Screen} (h : SameGrid a b) (u : ScreenUpdate) :
    (∃ e, a.update u = ⟨a, [], .error e⟩ ∧ b.update u = ⟨b, [], .error e⟩) ∨
      ∃ a' b' events, a.update u = ⟨a', events, .ok ()⟩ ∧ b.update u = ⟨b', events, .ok ()⟩ ∧
        SameGrid a' b' := by
  rw [h.eq_setCursor]
  unfold Screen.update
  simp only [applyRows_eq_draw, check_setCursor, draw_setCursor]
  cases b.check u with
  | error e => exact .inl ⟨e, rfl, rfl⟩
  | ok _ =>
    refine .inr ?_
    cases u.cursor with
    | none => exact ⟨_, _, _, rfl, rfl, rfl, rfl, rfl, rfl, rfl⟩
    | some cursor => exact ⟨_, _, _, rfl, rfl, rfl, rfl, rfl, rfl, rfl⟩

theorem update_cursor {s t : Screen} {u : ScreenUpdate} {events : List Event}
    (h : s.update u = ⟨t, events, .ok ()⟩) : t.cursor = u.cursor.getD s.cursor := by
  obtain ⟨-, -, rfl, -⟩ := update_ok h
  cases u.cursor with
  | none => exact draw_cursor s _
  | some cursor => rfl

end Screen

namespace Session

theorem notify_sameGrid {s t : Session} (h : s.screen.SameGrid t.screen) (n : Notice) :
    (∃ e, s.notify n = ⟨s, [], .error e⟩ ∧ t.notify n = ⟨t, [], .error e⟩) ∨
      ∃ s' t' events events', s.notify n = ⟨s', events, .ok ()⟩ ∧
        t.notify n = ⟨t', events', .ok ()⟩ ∧ s'.screen.SameGrid t'.screen ∧
        events.filter Event.isCells = events'.filter Event.isCells := by
  cases n
  case screenMode mode =>
    have hscreen := h.resize mode.rows.toNat mode.columns.toNat
    exact .inr ⟨_, _, _, _, rfl, rfl, hscreen, hscreen.redraw_cells⟩
  case erase erase =>
    have hscreen := h.erase erase
    exact .inr ⟨_, _, _, _, rfl, rfl, hscreen, hscreen.redraw_cells⟩
  case screen update =>
    simp only [notify]
    rcases h.update update with ⟨e, hs, ht⟩ | ⟨a, b, events, hs, ht, hscreen⟩
    · exact .inl ⟨⟨e⟩, by rw [hs], by rw [ht]⟩
    · rw [hs, ht]
      exact .inr ⟨_, _, _, _, rfl, rfl, hscreen, rfl⟩
  case connection connection =>
    exact .inr ⟨_, _, _, _, rfl, rfl, h, rfl⟩
  case oia field =>
    exact .inr ⟨_, _, _, _, rfl, rfl, h, rfl⟩
  all_goals exact .inr ⟨_, _, _, _, rfl, rfl, h, rfl⟩

theorem notify_cursor {s t : Session} {n : Notice} {events : List Event}
    (h : s.notify n = ⟨t, events, .ok ()⟩) :
    some t.screen.cursor = n.cursor?.or (some s.screen.cursor) := by
  rcases notify_ok h with ⟨mode, rfl, rfl, -⟩ | ⟨update, screen, told, rfl, hu, rfl, -⟩ |
    ⟨erase, rfl, rfl, -⟩ | ⟨connection, rfl, rfl, -⟩ | ⟨field, rfl, rfl, -⟩ | ⟨hn, rfl, -⟩
  case inr.inl =>
    have hcursor := Screen.update_cursor hu
    simp only [Notice.cursor?, hcursor]
    cases update.cursor <;> rfl
  case inr.inr.inr.inr.inr => cases n <;> first | rfl | cases hn
  all_goals rfl

def outcomes (s : Session) : List String → List (Outcome ProcessError)
  | [] => []
  | text :: texts => s.process text :: outcomes (s.process text).session texts

end Session

structure Outcome.Agrees {ε : Type} (a b : Outcome ε) : Prop where
  result : a.result = b.result
  screen : a.session.screen.SameGrid b.session.screen
  cells : a.events.filter Event.isCells = b.events.filter Event.isCells

namespace Session

theorem dispatchEach_cons_agrees {s t s' t' : Session} {n : Notice} {ns : List Notice}
    {events events' : List Event} (hs : s.notify n = ⟨s', events, .ok ()⟩)
    (ht : t.notify n = ⟨t', events', .ok ()⟩)
    (hcells : events.filter Event.isCells = events'.filter Event.isCells)
    (hrest : (s'.dispatchEach ns).Agrees (t'.dispatchEach ns) ∧
      s'.effective ns = t'.effective ns) :
    (s.dispatchEach (n :: ns)).Agrees (t.dispatchEach (n :: ns)) ∧
      s.effective (n :: ns) = t.effective (n :: ns) := by
  have hs' : s.dispatch (.notice n) = ⟨s', events, .ok ()⟩ := by rw [dispatch, hs]
  have ht' : t.dispatch (.notice n) = ⟨t', events', .ok ()⟩ := by rw [dispatch, ht]
  obtain ⟨⟨hresult, hscreen, hmore⟩, heffective⟩ := hrest
  rw [dispatchEach_cons_ok hs', dispatchEach_cons_ok ht']
  constructor
  · refine ⟨hresult, hscreen, ?_⟩
    rw [List.filter_append, List.filter_append, hcells, hmore]
  · simp only [effective, hs', ht', heffective]

theorem dispatchEach_agrees {s t : Session} (h : s.screen.SameGrid t.screen) (ns : List Notice) :
    (s.dispatchEach ns).Agrees (t.dispatchEach ns) ∧ s.effective ns = t.effective ns := by
  induction ns generalizing s t with
  | nil => exact ⟨⟨rfl, h, rfl⟩, rfl⟩
  | cons n ns ih =>
    rcases notify_sameGrid h n with ⟨e, hs, ht⟩ | ⟨s', t', events, events', hs, ht, hscreen, hcells⟩
    · have hs' : s.dispatch (.notice n) = ⟨s, [], .error e⟩ := by rw [dispatch, hs]
      have ht' : t.dispatch (.notice n) = ⟨t, [], .error e⟩ := by rw [dispatch, ht]
      rw [dispatchEach_cons_error hs', dispatchEach_cons_error ht']
      refine ⟨⟨rfl, h, rfl⟩, ?_⟩
      simp only [effective, hs', ht']
    · exact dispatchEach_cons_agrees hs ht hcells (ih hscreen)

theorem dispatchEach_erase_agrees (s t : Session) (rows cols : UInt16) (fg bg : Color)
    (ns : List Notice) :
    let erase := Notice.erase ⟨some rows, some cols, some fg, some bg⟩
    (s.dispatchEach (erase :: ns)).Agrees (t.dispatchEach (erase :: ns)) ∧
      s.effective (erase :: ns) = t.effective (erase :: ns) := by
  have hscreen := s.screen.sameGrid_erase t.screen rows cols fg bg
  exact dispatchEach_cons_agrees rfl rfl hscreen.redraw_cells (dispatchEach_agrees hscreen ns)

theorem history_cons (s : Session) (text : String) (texts : List String) :
    s.history (text :: texts) = s.history [text] ++ (s.process text).session.history texts := by
  simp [history]

theorem process_agrees_of_leaves {s t : Session} {text : String} {i : Indication}
    (hi : Indication.decode text = .ok i)
    (h : (s.dispatchEach i.leaves).Agrees (t.dispatchEach i.leaves) ∧
      s.effective i.leaves = t.effective i.leaves) :
    (s.process text).Agrees (t.process text) ∧ s.history [text] = t.history [text] := by
  obtain ⟨⟨hresult, hscreen, hcells⟩, heffective⟩ := h
  simp only [process_eq, history, hi, heffective]
  exact ⟨⟨congrArg (Except.mapError ProcessError.dispatch) hresult, hscreen, hcells⟩, trivial⟩

theorem process_agrees {s t : Session} (h : s.screen.SameGrid t.screen) (text : String) :
    (s.process text).Agrees (t.process text) ∧ s.history [text] = t.history [text] := by
  cases hd : Indication.decode text with
  | error e =>
    simp only [process_eq, history, hd]
    exact ⟨⟨rfl, h, rfl⟩, trivial⟩
  | ok i => exact process_agrees_of_leaves hd (dispatchEach_agrees h i.leaves)

theorem outcomes_agree {s t : Session} (h : s.screen.SameGrid t.screen) (texts : List String) :
    List.Forall₂ Outcome.Agrees (s.outcomes texts) (t.outcomes texts) ∧
      s.history texts = t.history texts := by
  induction texts generalizing s t with
  | nil => exact ⟨.nil, rfl⟩
  | cons text texts ih =>
    obtain ⟨hfirst, htold⟩ := process_agrees h text
    obtain ⟨hrest, hhistory⟩ := ih hfirst.screen
    rw [s.history_cons, t.history_cons, htold, hhistory]
    exact ⟨.cons hfirst hrest, rfl⟩

theorem feed_cursor (s : Session) (texts : List String) :
    some (s.feed texts).1.screen.cursor =
      ((s.history texts).filterMap Notice.cursor?).getLast?.or (some s.screen.cursor) :=
  (s.applied_history texts).last (fun s => some s.screen.cursor) Notice.cursor? notify_cursor

theorem feed_cursor_congr {s t : Session} {texts : List String}
    (h : s.history texts = t.history texts) (hplaced : ∃ n ∈ s.history texts, n.cursor?.isSome) :
    (s.feed texts).1.screen.cursor = (t.feed texts).1.screen.cursor := by
  have hs := s.feed_cursor texts
  have ht := t.feed_cursor texts
  obtain ⟨n, hn, hcursor⟩ := hplaced
  obtain ⟨cursor, hcursor⟩ := Option.isSome_iff_exists.mp hcursor
  have hmem : cursor ∈ (s.history texts).filterMap Notice.cursor? :=
    List.mem_filterMap.mpr ⟨n, hn, hcursor⟩
  obtain ⟨last, hlast⟩ := Option.ne_none_iff_exists'.mp
    (mt List.getLast?_eq_none_iff.mp (List.ne_nil_of_mem hmem))
  rw [hlast, Option.some_or] at hs
  rw [← h, hlast, Option.some_or] at ht
  exact Option.some.inj (hs.trans ht.symm)

/-- Messages that begin with an erase of all that a screen has bring any two sessions together,
whatever they have been through: every message has the same result in both, and leaves the same
size, colors and grid. The cursor is the same once an update has been applied that brings one. -/
theorem outcomes_resynchronize {text : String} {i : Indication} {rows cols : UInt16}
    {fg bg : Color} {ns : List Notice} (hi : Indication.decode text = .ok i)
    (herase : i.leaves = .erase ⟨some rows, some cols, some fg, some bg⟩ :: ns) (s t : Session)
    (texts : List String) :
    List.Forall₂ Outcome.Agrees (s.outcomes (text :: texts)) (t.outcomes (text :: texts)) ∧
      ∀ k, (∃ n ∈ s.history ((text :: texts).take k), n.cursor?.isSome) →
        (s.feed ((text :: texts).take k)).1.screen.cursor =
          (t.feed ((text :: texts).take k)).1.screen.cursor := by
  have hleaves := dispatchEach_erase_agrees s t rows cols fg bg ns
  simp only [← herase] at hleaves
  obtain ⟨hfirst, htold⟩ := process_agrees_of_leaves hi hleaves
  refine ⟨.cons hfirst (outcomes_agree hfirst.screen texts).1, ?_⟩
  intro k hplaced
  refine feed_cursor_congr ?_ hplaced
  cases k with
  | zero => rfl
  | succ k =>
    have hrest := (outcomes_agree hfirst.screen (texts.take k)).2
    rw [List.take_succ_cons, s.history_cons, t.history_cons, htold, hrest]

theorem outcomes_resynchronize_rejected :
    let erase := "\x7b\"erase\":\x7b\"logical-rows\":1,\"logical-cols\":2,\"fg\":\"red\"," ++
      "\"bg\":\"gray\"\x7d\x7d"
    let cursor := "\x7b\"screen\":\x7b\"cursor\":\x7b\"enabled\":true,\"column\":2,\"row\":"
    let outside := cursor ++ "2\x7d\x7d\x7d"
    let placed := cursor ++ "1\x7d\x7d\x7d"
    let s := create 1 1 .green .white
    let t : Session := ⟨(Screen.create 3 2 .blue .pink).setCursor .disabled, .initial, none, none⟩
    Indication.decode erase = .ok (.notice (.erase ⟨some 1, some 2, some .red, some .gray⟩)) ∧
      List.Forall₂ Outcome.Agrees (s.outcomes [erase, outside, placed])
        (t.outcomes [erase, outside, placed]) ∧
      (s.feed [erase, outside, placed]).1.screen.cursor =
        (t.feed [erase, outside, placed]).1.screen.cursor := by
  intro erase cursor outside placed s t
  have hdecode : Indication.decode erase =
      .ok (.notice (.erase ⟨some 1, some 2, some .red, some .gray⟩)) := by
    decide +kernel
  have hplaced : ∃ n ∈ s.history [erase, outside, placed], n.cursor?.isSome := by
    decide +kernel
  obtain ⟨hagree, hcursor⟩ := outcomes_resynchronize hdecode rfl s t [outside, placed]
  exact ⟨hdecode, hagree, hcursor 3 hplaced⟩

end Session

end Display3270
