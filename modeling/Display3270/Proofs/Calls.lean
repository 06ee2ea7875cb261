import Display3270.Lifecycle
import Display3270.Proofs.History

namespace Display3270

namespace Event

def isLink : Event → Bool
  | .attach | .detach => true
  | _ => false

theorem filter_of_link {events : List Event} (h : ∀ e ∈ events, e.isLink = true) :
    events.filter isLink = events ∧ events.filter (fun e => !e.isLink) = [] := by
  refine ⟨List.filter_eq_self.mpr h, List.filter_eq_nil_iff.mpr ?_⟩
  intro e he
  simp [h e he]

theorem filter_of_display {events : List Event} (h : ∀ e ∈ events, e.isLink = false) :
    events.filter isLink = [] ∧ events.filter (fun e => !e.isLink) = events := by
  refine ⟨List.filter_eq_nil_iff.mpr ?_, List.filter_eq_self.mpr ?_⟩
  all_goals
    intro e he
    simp [h e he]

theorem isLink_of_isScreen {e : Event} (h : e.isScreen = true) : e.isLink = false := by
  cases e <;> first | rfl | cases h

end Event

namespace Session

theorem notify_display {s t : Session} {n : Notice} {events : List Event}
    (h : s.notify n = ⟨t, events, .ok ()⟩) : ∀ e ∈ events, e.isLink = false := by
  have htexts : ∀ texts, ∀ e ∈ StatusLine.events texts, e.isLink = false := by
    intro texts e he
    obtain ⟨f, text, rfl⟩ := StatusLine.mem_events he
    rfl
  rcases notify_ok h with ⟨mode, -, -, rfl⟩ | ⟨update, screen, told, -, hu, -, rfl⟩ |
    ⟨erase, -, -, rfl⟩ | ⟨connection, -, -, rfl⟩ | ⟨field, -, -, rfl⟩ | ⟨-, -, rfl⟩
  · exact fun e he => Event.isLink_of_isScreen (t.screen.redraw_isScreen e he)
  · intro e he
    rcases List.mem_append.mp he with he | he
    · exact Event.isLink_of_isScreen (Screen.update_isScreen hu e he)
    · exact htexts _ e he
  · exact fun e he => Event.isLink_of_isScreen (t.screen.redraw_isScreen e he)
  · exact htexts _
  · exact htexts _
  · exact List.forall_mem_singleton.mpr rfl

theorem Applied.display {s t : Session} {ns : List Notice} {events : List Event}
    (h : Applied s ns t events) : ∀ e ∈ events, e.isLink = false := by
  induction h with
  | nil s => simp
  | cons hn hrest ih =>
    intro e he
    rcases List.mem_append.mp he with he | he
    · exact notify_display (notify_of_dispatch hn) e he
    · exact ih e he

theorem process_display (s : Session) (text : String) :
    ∀ e ∈ (s.process text).events, e.isLink = false := by
  have h := (s.applied_history [text]).display
  simpa [feed] using h

end Session

namespace Lifecycle

inductive Call
  | beginConnect
  | opened
  | closed
  | shutdown
  | receive (text : String)
  | outbound (input : UserInput)
  deriving DecidableEq

inductive Reply (α : Type)
  | nothing
  | delay (wait : α)
  | received (result : Except DispatchError Unit)
  | outbound (message : Except ConnectionError (Option String))

structure Run (α : Type) where
  last : Lifecycle α
  events : List Event
  replies : List (Reply α)

def Call.isLink : Call → Bool
  | .beginConnect | .opened | .closed | .shutdown => true
  | .receive _ | .outbound _ => false

def Call.text? : Call → Option String
  | .receive text => some text
  | _ => none

theorem Call.text?_of_isLink {c : Call} (h : c.isLink = true) : c.text? = none := by
  cases c
  case receive text => cases h
  all_goals rfl

def Reply.delay? {α : Type} : Reply α → Option α
  | .delay wait => some wait
  | _ => none

variable {α : Type}

structure SameLink (l m : Lifecycle α) : Prop where
  link : l.link = m.link
  backoff : l.backoff = m.backoff
  attached : l.attached = m.attached

theorem SameLink.trans {l m k : Lifecycle α} (h : SameLink l m) (h' : SameLink m k) :
    SameLink l k :=
  ⟨h.link.trans h'.link, h.backoff.trans h'.backoff, h.attached.trans h'.attached⟩

theorem receive_process (l : Lifecycle α) (text : String) :
    (l.receive text).1 = ⟨l.link, l.backoff, (l.session.process text).session, l.attached⟩ ∧
      (l.receive text).2.1 = (l.session.process text).events := by
  unfold receive Session.process
  cases Indication.decode text <;> exact ⟨rfl, rfl⟩

theorem receive_error_iff (l : Lifecycle α) (text : String) (e : DispatchError) :
    (l.receive text).2.2 = .error e ↔
      ∃ i, Indication.decode text = .ok i ∧ (l.session.dispatch i).result = .error e := by
  unfold receive
  cases Indication.decode text <;> simp

theorem receive_undecoded (l : Lifecycle α) (text : String) :
    (∃ i, Indication.decode text = .ok i) ∨ l.receive text = (l, [], .ok ()) := by
  unfold receive
  cases Indication.decode text with
  | error e => exact .inr rfl
  | ok i => exact .inl ⟨i, rfl⟩

variable [LE α] [LT α] [DecidableLE α] [DecidableLT α] [Mul α] [OfNat α 0] [OfNat α 1]

def call (l : Lifecycle α) : Call → Lifecycle α × List Event × Reply α
  | .beginConnect => (l.beginConnect, [], .nothing)
  | .opened => (l.opened.1, l.opened.2, .nothing)
  | .closed => (l.closed.1, l.closed.2.1, .delay l.closed.2.2)
  | .shutdown => (l.shutdown.1, l.shutdown.2, .nothing)
  | .receive text =>
    ((l.receive text).1, (l.receive text).2.1, .received (l.receive text).2.2)
  | .outbound input => (l, [], .outbound (l.outbound input))

def run (l : Lifecycle α) : List Call → Run α
  | [] => ⟨l, [], []⟩
  | c :: cs =>
    let (next, events, reply) := l.call c
    let rest := run next cs
    ⟨rest.last, events ++ rest.events, reply :: rest.replies⟩

theorem run_cons (l : Lifecycle α) (c : Call) (cs : List Call) :
    l.run (c :: cs) =
      ⟨((l.call c).1.run cs).last, (l.call c).2.1 ++ ((l.call c).1.run cs).events,
        (l.call c).2.2 :: ((l.call c).1.run cs).replies⟩ := rfl

theorem run_append (l : Lifecycle α) (cs ds : List Call) :
    l.run (cs ++ ds) =
      ⟨((l.run cs).last.run ds).last, (l.run cs).events ++ ((l.run cs).last.run ds).events,
        (l.run cs).replies ++ ((l.run cs).last.run ds).replies⟩ := by
  induction cs generalizing l with
  | nil => rfl
  | cons c cs ih => simp only [List.cons_append, run_cons, ih, List.append_assoc]

theorem call_link_session (l : Lifecycle α) {c : Call} (hc : c.isLink = true) :
    (l.call c).1.session = l.session ∧ ∀ e ∈ (l.call c).2.1, e.isLink = true := by
  cases c
  case beginConnect => exact ⟨rfl, by simp [call]⟩
  case opened =>
    refine ⟨rfl, ?_⟩
    cases ha : l.attached <;> simp [call, opened, ha, Event.isLink]
  case closed =>
    refine ⟨rfl, ?_⟩
    cases ha : l.attached <;> simp [call, closed, shutdown, ha, Event.isLink]
  case shutdown =>
    refine ⟨rfl, ?_⟩
    cases ha : l.attached <;> simp [call, shutdown, ha, Event.isLink]
  all_goals cases hc

theorem SameLink.call {l m : Lifecycle α} (h : SameLink l m) {c : Call} (hc : c.isLink = true) :
    SameLink (l.call c).1 (m.call c).1 ∧ (l.call c).2 = (m.call c).2 := by
  obtain ⟨hl, hb, ha⟩ := h
  cases c
  case beginConnect => exact ⟨⟨rfl, congrArg Backoff.grow hb, ha⟩, rfl⟩
  case opened => exact ⟨⟨rfl, congrArg Backoff.reset hb, rfl⟩, by simp [Lifecycle.call, opened, ha]⟩
  case closed => exact ⟨⟨rfl, hb, rfl⟩, by simp [Lifecycle.call, closed, shutdown, ha, hb]⟩
  case shutdown => exact ⟨⟨rfl, hb, rfl⟩, by simp [Lifecycle.call, shutdown, ha]⟩
  all_goals cases hc

theorem call_display (l : Lifecycle α) {c : Call} (hc : c.isLink = false) :
    SameLink (l.call c).1 l ∧ (∀ e ∈ (l.call c).2.1, e.isLink = false) ∧
      (l.call c).2.2.delay? = none := by
  cases c
  case receive text =>
    obtain ⟨hlast, hevents⟩ := l.receive_process text
    refine ⟨?_, ?_, rfl⟩
    · simp only [call, hlast]
      exact ⟨rfl, rfl, rfl⟩
    · simp only [call, hevents]
      exact l.session.process_display text
  case outbound input => exact ⟨⟨rfl, rfl, rfl⟩, by simp [call], rfl⟩
  all_goals cases hc

theorem SameLink.run {l m : Lifecycle α} (h : SameLink l m) (calls : List Call) :
    SameLink (l.run calls).last (m.run (calls.filter Call.isLink)).last ∧
      (l.run calls).events.filter Event.isLink = (m.run (calls.filter Call.isLink)).events ∧
      (l.run calls).replies.filterMap Reply.delay? =
        (m.run (calls.filter Call.isLink)).replies.filterMap Reply.delay? := by
  -- both runs take a call about the link; the first takes the others alone, and they keep its link
  induction calls generalizing l m with
  | nil => exact ⟨h, rfl, rfl⟩
  | cons c cs ih =>
    cases hc : c.isLink with
    | true =>
      obtain ⟨hsame, hreply⟩ := h.call hc
      obtain ⟨hlast, hevents, hdelays⟩ := ih hsame
      have hlink := (Event.filter_of_link (l.call_link_session hc).2).1
      rw [List.filter_cons_of_pos hc, run_cons, run_cons]
      refine ⟨hlast, ?_, ?_⟩
      · rw [List.filter_append, hlink, hevents, hreply]
      · rw [List.filterMap_cons, List.filterMap_cons, hdelays, hreply]
    | false =>
      obtain ⟨hsame, hshown, hdelay⟩ := l.call_display hc
      obtain ⟨hlast, hevents, hdelays⟩ := ih (hsame.trans h)
      rw [List.filter_cons_of_neg (by simp [hc]), run_cons]
      refine ⟨hlast, ?_, ?_⟩
      · rw [List.filter_append, (Event.filter_of_display hshown).1, hevents, List.nil_append]
      · rw [List.filterMap_cons, hdelay, hdelays]

theorem run_session (l : Lifecycle α) (calls : List Call) :
    (l.run calls).last.session = (l.session.feed (calls.filterMap Call.text?)).1 ∧
      (l.run calls).events.filter (fun e => !e.isLink) =
        (l.session.feed (calls.filterMap Call.text?)).2 := by
  induction calls generalizing l with
  | nil => exact ⟨rfl, rfl⟩
  | cons c cs ih =>
    rw [run_cons]
    obtain ⟨hlast, hevents⟩ := ih (l.call c).1
    by_cases hc : c.isLink = true
    · obtain ⟨hsession, hevery⟩ := l.call_link_session hc
      have hlink := (Event.filter_of_link hevery).2
      have htext := Call.text?_of_isLink hc
      rw [hsession] at hlast hevents
      rw [List.filterMap_cons, htext, List.filter_append, hlink, hlast, hevents]
      exact ⟨rfl, rfl⟩
    · cases c
      case receive text =>
        obtain ⟨hreceived, htold⟩ := l.receive_process text
        have hshown := (Event.filter_of_display (l.session.process_display text)).2
        simp only [call, hreceived] at hlast hevents
        simp only [call, hreceived, htold, List.filter_append, hshown, hlast, hevents]
        exact ⟨rfl, rfl⟩
      case outbound input => exact ⟨hlast, hevents⟩
      all_goals exact absurd rfl hc

/-- What is shown and the link do not interfere, in whatever order they are called. The session is
that of the received messages alone, and so is what the view is told of it; the link, its backoff,
its delays and what the view is told of it are those of the run without the messages of either side.
A message is an error exactly if it can be read and cannot be applied. -/
theorem run_separates (l : Lifecycle α) (calls : List Call) :
    let done := l.run calls
    let shown := l.session.feed (calls.filterMap Call.text?)
    let linked := l.run (calls.filter Call.isLink)
    (done.last.session = shown.1 ∧ done.events.filter (fun e => !e.isLink) = shown.2) ∧
      (done.last.link = linked.last.link ∧ done.last.backoff = linked.last.backoff ∧
        done.last.attached = linked.last.attached ∧
        done.replies.filterMap Reply.delay? = linked.replies.filterMap Reply.delay? ∧
        done.events.filter Event.isLink = linked.events) ∧
      ∀ (m : Lifecycle α) (text : String),
        (∀ e, (m.receive text).2.2 = .error e ↔
          ∃ i, Indication.decode text = .ok i ∧ (m.session.dispatch i).result = .error e) ∧
        ((∃ i, Indication.decode text = .ok i) ∨ m.receive text = (m, [], .ok ())) := by
  have hself : SameLink l l := ⟨rfl, rfl, rfl⟩
  obtain ⟨hsame, hevents, hdelays⟩ := hself.run calls
  refine ⟨l.run_session calls, ?_, ?_⟩
  · exact ⟨hsame.link, hsame.backoff, hsame.attached, hdelays, hevents⟩
  · exact fun m text => ⟨m.receive_error_iff text, m.receive_undecoded text⟩

end Lifecycle

end Display3270
