import Display3270.Client
import Display3270.Proofs.Attachment

namespace Display3270

def Phase.link : Phase → LinkState
  | .connecting => .connecting
  | .serving => .opened
  | .waiting | .stopped => .closed

def Signal.line? : Signal → Option String
  | .line text => some text
  | _ => none

def Signal.input? : Signal → Option UserInput
  | .input i => some i
  | _ => none

def UserInput.message? (i : UserInput) : Option String :=
  i.actions?.map fun actions => (Operation.ofActions actions).encode

namespace Act

def event? : Act → Option Event
  | .told e => some e
  | _ => none

def sent? : Act → Option String
  | .sent text => some text
  | _ => none

def traced? : Act → Option String
  | .traced text => some text
  | _ => none

def mark? (act : Act) : Option Event := act.event?.filter Event.isLink

theorem filterMap_mark? (acts : List Act) :
    acts.filterMap mark? = (acts.filterMap event?).filter Event.isLink :=
  List.filter_filterMap.symm

end Act

structure Move (α : Type) where
  before : Client α
  signal : Signal
  acts : List Act
  after : Client α

namespace Lifecycle

def Call.Fits : Call → LinkState → Prop
  | .beginConnect, link => link = .closed
  | .opened, link => link = .connecting
  | .receive _, link | .outbound _, link => link = .opened
  | .closed, _ | .shutdown, _ => True

def Reply.message? {α : Type} : Reply α → Option String
  | .outbound (.ok text) => text
  | _ => none

variable {α : Type} [LE α] [LT α] [DecidableLE α] [DecidableLT α] [Mul α] [OfNat α 0] [OfNat α 1]

def Timely (l : Lifecycle α) : List Call → Prop
  | [] => True
  | c :: cs => c.Fits l.link ∧ Timely (l.call c).1 cs

theorem Timely.answered {l : Lifecycle α} {cs : List Call} (h : l.Timely cs)
    (e : ConnectionError) : .outbound (.error e) ∉ (l.run cs).replies := by
  induction cs generalizing l with
  | nil => exact List.not_mem_nil
  | cons c cs ih =>
    rw [run_cons, List.mem_cons, not_or]
    refine ⟨?_, ih h.2⟩
    cases c
    case outbound i =>
      have houtbound : l.outbound i = .ok i.message? := if_pos h.1
      simp [call, houtbound]
    all_goals simp [call]

theorem Timely.append {l : Lifecycle α} {cs ds : List Call} (h : l.Timely cs)
    (hds : (l.run cs).last.Timely ds) : l.Timely (cs ++ ds) := by
  induction cs generalizing l with
  | nil => exact hds
  | cons c cs ih => exact ⟨h.1, ih h.2 hds⟩

end Lifecycle

namespace Client

variable {α : Type} [LE α] [LT α] [DecidableLE α] [DecidableLT α] [Mul α] [OfNat α 0] [OfNat α 1]

/-- What can happen to a client. Input arrives in every phase, until the channel is closed; to take
from the channel a client has to serve or to wait, and something has to be in it, or its end. -/
def awaits (c : Client α) (s : Signal) : Bool :=
  match c.phase, s with
  | .stopped, _ => false
  | _, .input _ | _, .inputClosed => !c.ended
  | .serving, .taken | .waiting, .taken => !c.queue.isEmpty || c.ended
  | .connecting, .connected | .connecting, .refused => true
  | .serving, .line _ | .serving, .hangUp => true
  | .waiting, .timer => true
  | _, _ => false

inductive Moves : Client α → List (Move α) → Client α → Prop
  | nil (c : Client α) : Moves c [] c
  | cons {c next last : Client α} {s : Signal} {acts : List Act} {ms : List (Move α)}
      (awaited : c.awaits s = true) (step : c.step s = .ok (next, acts))
      (rest : Moves next ms last) : Moves c (⟨c, s, acts, next⟩ :: ms) last

def serviceable (c : Client α) : List UserInput := if c.phase = .serving then c.queue else []

def calls (c : Client α) (s : Signal) : List Lifecycle.Call :=
  match c.phase, s with
  | .connecting, .connected => [.opened]
  | .connecting, .refused => [.closed]
  | .serving, .line text =>
    .receive text :: match (c.lifecycle.receive text).2.2 with
      | .ok _ => []
      | .error _ => [.closed]
  | .serving, .hangUp => [.closed]
  | .serving, .taken => match c.queue with
    | i :: _ => [.outbound i]
    | [] => [.shutdown]
  | .waiting, .taken => if c.queue.isEmpty then [.shutdown] else []
  | .waiting, .timer => [.beginConnect]
  | _, _ => []

structure InPhase (c : Client α) : Prop where
  link : c.lifecycle.link = c.phase.link
  attached : c.lifecycle.attached = decide (c.phase = .serving)
  drained : c.phase = .stopped → c.ended = true ∧ c.queue = []

end Client

namespace Move

variable {α : Type} [LE α] [LT α] [DecidableLE α] [DecidableLT α] [Mul α] [OfNat α 0] [OfNat α 1]

def calls (m : Move α) : List Lifecycle.Call := m.before.calls m.signal

def mark? (m : Move α) : Option Event :=
  if m.signal matches .connected then some .attach
  else if m.before.phase = .serving ∧ m.after.phase ≠ .serving then some .detach
  else none

def taken? (m : Move α) : Option UserInput :=
  if m.signal matches .taken then m.before.queue.head? else none

def message? (m : Move α) : Option String :=
  if m.before.phase = .serving then m.taken?.bind UserInput.message? else none

def served? (m : Move α) : Option UserInput :=
  if m.before.phase = .serving then m.signal.input? else none

end Move

namespace Client

theorem filterMap_toList_cons {β γ : Type} (f : β → Option γ) (x : β) (xs : List β) :
    (x :: xs).filterMap f = (f x).toList ++ xs.filterMap f := by
  cases h : f x <;> simp [h]

section Told

variable (events : List Event)

@[simp]
theorem told_event : (told events).filterMap Act.event? = events := by
  have h : Act.event? ∘ Act.told = some := rfl
  rw [told, List.filterMap_map, h, List.filterMap_some]

@[simp]
theorem told_sent : (told events).filterMap Act.sent? = [] := by
  simp [told, Act.sent?]

@[simp]
theorem told_traced : (told events).filterMap Act.traced? = [] := by
  simp [told, Act.traced?]

@[simp]
theorem told_mark : (told events).filterMap Act.mark? = events.filter Event.isLink := by
  rw [Act.filterMap_mark?, told_event]

theorem filterMap_received {β : Type} (f : Act → Option β) (text : String) (more : List Act) :
    (.traced text :: told events ++ more).filterMap f =
      (f (.traced text)).toList ++ (told events).filterMap f ++ more.filterMap f := by
  rw [List.cons_append, filterMap_toList_cons, List.filterMap_append, List.append_assoc]

end Told

section

variable {α : Type}

theorem filterMap_acts {β : Type} {f : Act → Option β} {g : Move α → Option β}
    {ms : List (Move α)} (h : ∀ m ∈ ms, m.acts.filterMap f = (g m).toList) :
    (ms.flatMap Move.acts).filterMap f = ms.filterMap g := by
  induction ms with
  | nil => rfl
  | cons m ms ih =>
    obtain ⟨hm, hms⟩ := List.forall_mem_cons.mp h
    rw [List.flatMap_cons, List.filterMap_append, hm, ih hms, filterMap_toList_cons]

theorem send_eq {c : Client α} (h : c.lifecycle.link = .opened) (i : UserInput) :
    c.send i = .ok (c, i.message?.toList.map .sent) := by
  simp only [send, Lifecycle.outbound, h, ↓reduceIte]
  rfl

theorem receive_sameLink (l : Lifecycle α) (text : String) :
    Lifecycle.SameLink (l.receive text).1 l := by
  rw [(l.receive_process text).1]
  exact ⟨rfl, rfl, rfl⟩

theorem receive_marks (l : Lifecycle α) (text : String) :
    (l.receive text).2.1.filter Event.isLink = [] := by
  rw [(l.receive_process text).2]
  exact (Event.filter_of_display (l.session.process_display text)).1

theorem shutdown_marks (l : Lifecycle α) :
    l.shutdown.2.filter Event.isLink = if l.attached then [.detach] else [] := by
  cases h : l.attached <;> simp [Lifecycle.shutdown, h, Event.isLink]

variable [LE α] [DecidableLE α] [OfNat α 0] [OfNat α 1]

theorem receive_applied {c : Client α} {text : String} (h : c.lifecycle.attached = true)
    (applied : (c.lifecycle.receive text).2.2 = .ok ()) :
    c.receive text = (c.goOn (c.lifecycle.receive text).1 c.phase,
      .traced text :: told (c.lifecycle.receive text).2.1 ++
        [.observed (c.lifecycle.receive text).1.session]) := by
  have hattached : (c.lifecycle.receive text).1.attached = true :=
    (receive_sameLink c.lifecycle text).attached.trans h
  simp only [receive, applied, hattached, ↓reduceIte]

theorem receive_rejected {c : Client α} {text : String} {e : DispatchError}
    (rejected : (c.lifecycle.receive text).2.2 = .error e) :
    c.receive text = (c.goOn (c.lifecycle.receive text).1.shutdown.1 .waiting,
      .traced text :: told (c.lifecycle.receive text).2.1 ++
        told (c.lifecycle.receive text).1.shutdown.2) := by
  simp only [receive, rejected]
  rfl

end

variable {α : Type} [LT α] [DecidableLT α] [Mul α]

inductive Steps (c : Client α) : Signal → Client α → List Act → Prop
  | arrive {i : UserInput} (h : c.phase ≠ .stopped) (unended : c.ended = false) :
      Steps c (.input i) ⟨c.lifecycle, c.phase, c.queue ++ [i], c.ended⟩ []
  | close (h : c.phase ≠ .stopped) :
      Steps c .inputClosed ⟨c.lifecycle, c.phase, c.queue, true⟩ []
  | accept (h : c.phase = .connecting) :
      Steps c .connected (c.goOn c.lifecycle.opened.1 .serving) (told c.lifecycle.opened.2)
  | refuse (h : c.phase = .connecting) :
      Steps c .refused (c.goOn c.lifecycle.shutdown.1 .waiting) (told c.lifecycle.shutdown.2)
  | apply {text : String} (h : c.phase = .serving)
      (applied : (c.lifecycle.receive text).2.2 = .ok ()) :
      Steps c (.line text) (c.goOn (c.lifecycle.receive text).1 .serving)
        (.traced text :: told (c.lifecycle.receive text).2.1 ++
          [.observed (c.lifecycle.receive text).1.session])
  | desync {text : String} {e : DispatchError} (h : c.phase = .serving)
      (rejected : (c.lifecycle.receive text).2.2 = .error e) :
      Steps c (.line text) (c.goOn (c.lifecycle.receive text).1.shutdown.1 .waiting)
        (.traced text :: told (c.lifecycle.receive text).2.1 ++
          told (c.lifecycle.receive text).1.shutdown.2)
  | hangUp (h : c.phase = .serving) :
      Steps c .hangUp (c.goOn c.lifecycle.shutdown.1 .waiting) (told c.lifecycle.shutdown.2)
  | send {i : UserInput} {rest : List UserInput} (h : c.phase = .serving)
      (first : c.queue = i :: rest) :
      Steps c .taken ⟨c.lifecycle, c.phase, rest, c.ended⟩ (i.message?.toList.map .sent)
  | drop {i : UserInput} {rest : List UserInput} (h : c.phase = .waiting)
      (first : c.queue = i :: rest) :
      Steps c .taken ⟨c.lifecycle, c.phase, rest, c.ended⟩ []
  | stop (h : c.phase = .serving ∨ c.phase = .waiting) (empty : c.queue = [])
      (ended : c.ended = true) :
      Steps c .taken (c.goOn c.lifecycle.shutdown.1 .stopped) (told c.lifecycle.shutdown.2)
  | retry (h : c.phase = .waiting) :
      Steps c .timer (c.goOn c.lifecycle.beginConnect .connecting) []

theorem inPhase_start {l : Lifecycle α} (h : l.attached = false) : (start l).InPhase := by
  refine ⟨rfl, ?_, nofun⟩
  simpa [start, Lifecycle.beginConnect] using h

theorem Steps.inPhase {c next : Client α} {s : Signal} {acts : List Act} (h : Steps c s next acts)
    (hc : c.InPhase) : next.InPhase := by
  cases h with
  | arrive h => exact ⟨hc.link, hc.attached, fun hs => absurd hs h⟩
  | close h => exact ⟨hc.link, hc.attached, fun hs => absurd hs h⟩
  | accept h => exact ⟨rfl, rfl, nofun⟩
  | refuse h => exact ⟨rfl, rfl, nofun⟩
  | @apply text h applied =>
    have hsame := receive_sameLink c.lifecycle text
    refine ⟨?_, ?_, nofun⟩
    · rw [goOn, hsame.link, hc.link, h]
    · rw [goOn, hsame.attached, hc.attached, h]
  | desync h rejected => exact ⟨rfl, rfl, nofun⟩
  | hangUp h => exact ⟨rfl, rfl, nofun⟩
  | send h first => exact ⟨hc.link, hc.attached, fun hs => nomatch h.symm.trans hs⟩
  | drop h first => exact ⟨hc.link, hc.attached, fun hs => nomatch h.symm.trans hs⟩
  | stop h empty ended => exact ⟨rfl, rfl, fun _ => ⟨ended, empty⟩⟩
  | retry h =>
    refine ⟨rfl, ?_, nofun⟩
    rw [goOn, Lifecycle.beginConnect, hc.attached, h]
    rfl

theorem Steps.marks {c next : Client α} {s : Signal} {acts : List Act} (h : Steps c s next acts)
    (hc : c.InPhase) : acts.filterMap Act.mark? = (Move.mark? ⟨c, s, acts, next⟩).toList := by
  have hattached := hc.attached
  cases h with
  | arrive h => simp [Move.mark?]
  | close h => simp [Move.mark?]
  | accept h => simp [Move.mark?, Lifecycle.opened, hattached, h, Event.isLink]
  | refuse h => simp [Move.mark?, shutdown_marks, hattached, h]
  | apply h applied =>
    rw [filterMap_received, told_mark, receive_marks]
    simp [Act.mark?, Act.event?, Move.mark?, goOn, h]
  | @desync text e h rejected =>
    have hsame := receive_sameLink c.lifecycle text
    rw [filterMap_received, told_mark, told_mark, receive_marks, shutdown_marks, hsame.attached]
    simp [Act.mark?, Act.event?, Move.mark?, goOn, h, hattached]
  | hangUp h => simp [Move.mark?, shutdown_marks, goOn, hattached, h]
  | @send i rest h first => cases i.message? <;> simp [Act.mark?, Act.event?, Move.mark?, h]
  | drop h first => simp [Move.mark?, h]
  | stop h => rcases h with h | h <;> simp [Move.mark?, shutdown_marks, goOn, hattached, h]
  | retry h => simp [Move.mark?, h]

theorem Steps.sent {c next : Client α} {s : Signal} {acts : List Act} (h : Steps c s next acts) :
    acts.filterMap Act.sent? = (Move.message? ⟨c, s, acts, next⟩).toList := by
  cases h with
  | @send i rest h first =>
    cases hm : i.message? <;> simp [Act.sent?, Move.message?, Move.taken?, h, first, hm]
  | drop h first => simp [Move.message?, h]
  | stop h empty => simp [Move.message?, Move.taken?, empty]
  | apply h applied =>
    rw [filterMap_received, told_sent]
    simp [Act.sent?, Move.message?, Move.taken?]
  | desync h rejected =>
    rw [filterMap_received, told_sent, told_sent]
    simp [Act.sent?, Move.message?, Move.taken?]
  | _ => simp [Move.message?, Move.taken?]

theorem Steps.traced {c next : Client α} {s : Signal} {acts : List Act} (h : Steps c s next acts) :
    acts.filterMap Act.traced? = s.line?.toList := by
  cases h with
  | @send i rest h first => cases i.message? <;> simp [Act.traced?, Signal.line?]
  | apply h applied =>
    rw [filterMap_received, told_traced]
    simp [Act.traced?, Signal.line?]
  | desync h rejected =>
    rw [filterMap_received, told_traced, told_traced]
    simp [Act.traced?, Signal.line?]
  | _ => simp [Signal.line?]

theorem Steps.stopped_iff {c next : Client α} {s : Signal} {acts : List Act}
    (h : Steps c s next acts) : next.phase = .stopped ↔ s = .taken ∧ c.queue = [] := by
  cases h with
  | arrive h => simp [h]
  | close h => simp [h]
  | send h first => simp [h, first]
  | drop h first => simp [h, first]
  | stop h empty => simp [goOn, empty]
  | _ => simp [goOn]

theorem Steps.ended_iff {c next : Client α} {s : Signal} {acts : List Act}
    (h : Steps c s next acts) : next.ended = true ↔ c.ended = true ∨ s = .inputClosed := by
  cases h <;> simp [goOn]

theorem Steps.queue {c next : Client α} {s : Signal} {acts : List Act}
    (h : Steps c s next acts) :
    c.queue ++ s.input?.toList = (Move.taken? ⟨c, s, acts, next⟩).toList ++ next.queue := by
  cases h with
  | send h first => simp [Signal.input?, Move.taken?, first]
  | drop h first => simp [Signal.input?, Move.taken?, first]
  | stop h empty => simp [Signal.input?, Move.taken?, goOn, empty]
  | _ => simp [Signal.input?, Move.taken?, goOn]

theorem Steps.sent_sublist {c next : Client α} {s : Signal} {acts : List Act}
    (h : Steps c s next acts) (hempty : s = .connected → c.queue = []) :
    ((Move.message? ⟨c, s, acts, next⟩).toList ++
        next.serviceable.filterMap UserInput.message?).Sublist
      ((c.serviceable ++ (Move.served? ⟨c, s, acts, next⟩).toList).filterMap
        UserInput.message?) := by
  cases h with
  | arrive h => by_cases hs : c.phase = .serving <;>
      simp [Move.message?, Move.taken?, Move.served?, Signal.input?, serviceable, hs]
  | close h => by_cases hs : c.phase = .serving <;>
      simp [Move.message?, Move.taken?, Move.served?, Signal.input?, serviceable, hs]
  | accept h =>
    simp [Move.message?, Move.served?, serviceable, goOn, h, hempty rfl]
  | apply h applied =>
    simp [Move.message?, Move.taken?, Move.served?, Signal.input?, serviceable, goOn, h]
  | @send i rest h first =>
    cases hm : i.message? <;>
      simp [Move.message?, Move.taken?, Move.served?, Signal.input?, serviceable, h, first, hm]
  | drop h first => simp [Move.message?, Move.served?, serviceable, h]
  | stop h empty => simp [Move.message?, Move.taken?, serviceable, goOn, empty]
  | _ => simp [Move.message?, Move.taken?, serviceable, goOn]

variable [LE α] [DecidableLE α] [OfNat α 0] [OfNat α 1]

theorem steps_receive {c : Client α} (hc : c.InPhase) (h : c.phase = .serving) (text : String) :
    Steps c (.line text) (c.receive text).1 (c.receive text).2 := by
  cases hr : (c.lifecycle.receive text).2.2 with
  | ok u =>
    have hattached : c.lifecycle.attached = true := by
      rw [hc.attached, h]
      rfl
    rw [receive_applied hattached hr, h]
    exact .apply h hr
  | error e =>
    rw [receive_rejected hr]
    exact .desync h hr

theorem step_ok {c : Client α} (hc : c.InPhase) (s : Signal) :
    ∃ next acts, c.step s = .ok (next, acts) ∧ (c.awaits s = true → Steps c s next acts) := by
  obtain ⟨l, phase, queue, ended⟩ := c
  cases s with
  | input i =>
    cases phase with
    | stopped => exact ⟨_, _, rfl, nofun⟩
    | _ =>
      cases ended with
      | false => exact ⟨_, _, rfl, fun _ => .arrive nofun rfl⟩
      | true => exact ⟨_, _, rfl, nofun⟩
  | inputClosed =>
    cases phase with
    | stopped => exact ⟨_, _, rfl, nofun⟩
    | _ => exact ⟨_, _, rfl, fun _ => .close nofun⟩
  | taken =>
    cases phase with
    | serving =>
      cases queue with
      | cons i rest =>
        have hsend := send_eq (c := ⟨l, .serving, rest, ended⟩) hc.link i
        exact ⟨_, _, hsend, fun _ => .send rfl rfl⟩
      | nil =>
        cases ended with
        | true => exact ⟨_, _, rfl, fun _ => .stop (.inl rfl) rfl rfl⟩
        | false => exact ⟨_, _, rfl, nofun⟩
    | waiting =>
      cases queue with
      | cons i rest => exact ⟨_, _, rfl, fun _ => .drop rfl rfl⟩
      | nil =>
        cases ended with
        | true => exact ⟨_, _, rfl, fun _ => .stop (.inr rfl) rfl rfl⟩
        | false => exact ⟨_, _, rfl, nofun⟩
    | _ => exact ⟨_, _, rfl, nofun⟩
  | connected =>
    cases phase with
    | connecting => exact ⟨_, _, rfl, fun _ => .accept rfl⟩
    | _ => exact ⟨_, _, rfl, nofun⟩
  | refused =>
    cases phase with
    | connecting => exact ⟨_, _, rfl, fun _ => .refuse rfl⟩
    | _ => exact ⟨_, _, rfl, nofun⟩
  | line text =>
    cases phase with
    | serving => exact ⟨_, _, rfl, fun _ => steps_receive hc rfl text⟩
    | _ => exact ⟨_, _, rfl, nofun⟩
  | hangUp =>
    cases phase with
    | serving => exact ⟨_, _, rfl, fun _ => .hangUp rfl⟩
    | _ => exact ⟨_, _, rfl, nofun⟩
  | timer =>
    cases phase with
    | waiting => exact ⟨_, _, rfl, fun _ => .retry rfl⟩
    | _ => exact ⟨_, _, rfl, nofun⟩

theorem steps_of_step {c next : Client α} (hc : c.InPhase) {s : Signal} {acts : List Act}
    (hs : c.awaits s = true) (h : c.step s = .ok (next, acts)) : Steps c s next acts := by
  obtain ⟨next', acts', hstep, hdoes⟩ := step_ok hc s
  cases h.symm.trans hstep
  exact hdoes hs

structure Asks (c : Client α) (cs : List Lifecycle.Call) (next : Client α) (acts : List Act) :
    Prop where
  timely : c.lifecycle.Timely cs
  last : next.lifecycle = (c.lifecycle.run cs).last
  events : acts.filterMap Act.event? = (c.lifecycle.run cs).events
  sent : acts.filterMap Act.sent? =
    (c.lifecycle.run cs).replies.filterMap Lifecycle.Reply.message?

theorem Asks.append {c next last : Client α} {cs ds : List Lifecycle.Call} {acts more : List Act}
    (first : Asks c cs next acts) (rest : Asks next ds last more) :
    Asks c (cs ++ ds) last (acts ++ more) := by
  obtain ⟨htimely, hlast, hevents, hsent⟩ := first
  obtain ⟨htimely', hlast', hevents', hsent'⟩ := rest
  rw [hlast] at htimely' hlast' hevents' hsent'
  constructor
  · exact htimely.append htimely'
  · rw [c.lifecycle.run_append, hlast']
  · rw [c.lifecycle.run_append, List.filterMap_append, hevents, hevents']
  · rw [c.lifecycle.run_append, List.filterMap_append, List.filterMap_append, hsent, hsent']

theorem asks_call {c next : Client α} (call : Lifecycle.Call) {acts : List Act}
    (fits : call.Fits c.lifecycle.link) (last : next.lifecycle = (c.lifecycle.call call).1)
    (events : acts.filterMap Act.event? = (c.lifecycle.call call).2.1)
    (sent : acts.filterMap Act.sent? = (c.lifecycle.call call).2.2.message?.toList) :
    Asks c [call] next acts := by
  refine ⟨⟨fits, trivial⟩, last, ?_, ?_⟩
  · rw [events, Lifecycle.run_cons]
    exact (List.append_nil _).symm
  · rw [sent]
    cases h : (c.lifecycle.call call).2.2.message? with
    | none => exact (List.filterMap_cons_none (l := []) h).symm
    | some text => exact (List.filterMap_cons_some (l := []) h).symm

theorem asks_told {c : Client α} (call : Lifecycle.Call) (fits : call.Fits c.lifecycle.link)
    (silent : (c.lifecycle.call call).2.2.message? = none) (phase : Phase) :
    Asks c [call] (c.goOn (c.lifecycle.call call).1 phase) (told (c.lifecycle.call call).2.1) := by
  apply asks_call call fits rfl
  · exact told_event _
  · rw [told_sent, silent]
    rfl

theorem asks_receive {c : Client α} (hlink : c.lifecycle.link = .opened) (text : String)
    (phase : Phase) (seen : List Act) (hevents : seen.filterMap Act.event? = [])
    (hsent : seen.filterMap Act.sent? = []) :
    Asks c [.receive text] (c.goOn (c.lifecycle.receive text).1 phase)
      (.traced text :: told (c.lifecycle.receive text).2.1 ++ seen) := by
  apply asks_call (.receive text) hlink rfl
  · rw [filterMap_received, told_event, hevents, List.append_nil]
    rfl
  · rw [filterMap_received, told_sent, hsent]
    rfl

theorem Steps.asks {c next : Client α} {s : Signal} {acts : List Act} (h : Steps c s next acts)
    (hc : c.InPhase) : Asks c (c.calls s) next acts := by
  have hlink := hc.link
  cases h with
  | @arrive i h =>
    have hnone : c.calls (.input i) = [] := by cases hphase : c.phase <;> simp [calls, hphase]
    rw [hnone]
    exact ⟨trivial, rfl, rfl, rfl⟩
  | close h =>
    have hnone : c.calls .inputClosed = [] := by cases hphase : c.phase <;> simp [calls, hphase]
    rw [hnone]
    exact ⟨trivial, rfl, rfl, rfl⟩
  | accept h =>
    rw [h] at hlink
    simp only [calls, h]
    exact asks_told .opened hlink rfl .serving
  | refuse h =>
    simp only [calls, h]
    exact asks_told .closed trivial rfl .waiting
  | @apply text h applied =>
    rw [h] at hlink
    simp only [calls, h, applied]
    exact asks_receive hlink text .serving _ rfl rfl
  | @desync text e h rejected =>
    rw [h] at hlink
    simp only [calls, h, rejected]
    have hreceived := asks_receive hlink text .serving [] rfl rfl
    rw [List.append_nil] at hreceived
    exact hreceived.append (asks_told .closed trivial rfl .waiting)
  | hangUp h =>
    simp only [calls, h]
    exact asks_told .closed trivial rfl .waiting
  | @send i rest h first =>
    rw [h] at hlink
    simp only [calls, h, first]
    have houtbound : c.lifecycle.outbound i = .ok i.message? := if_pos hlink
    refine asks_call (.outbound i) hlink rfl ?_ ?_
    · cases i.message? <;> rfl
    · simp only [Lifecycle.call, houtbound]
      cases i.message? <;> rfl
  | drop h first =>
    simp only [calls, h, first, List.isEmpty_cons, Bool.false_eq_true, ↓reduceIte]
    exact ⟨trivial, rfl, rfl, rfl⟩
  | stop h empty =>
    rcases h with h | h
    all_goals
      simp only [calls, h, empty, List.isEmpty_nil, ↓reduceIte]
      exact asks_told .shutdown trivial rfl .stopped
  | retry h =>
    rw [h] at hlink
    simp only [calls, h]
    exact asks_call .beginConnect hlink rfl rfl rfl

theorem Moves.sound {c last : Client α} {ms : List (Move α)} (h : Moves c ms last)
    (hc : c.InPhase) :
    last.InPhase ∧
      ∀ m ∈ ms, m.before.InPhase ∧ Steps m.before m.signal m.after m.acts := by
  induction h with
  | nil c => exact ⟨hc, by simp⟩
  | cons awaited step rest ih =>
    have hstep := steps_of_step hc awaited step
    obtain ⟨hlast, hmoves⟩ := ih (hstep.inPhase hc)
    exact ⟨hlast, List.forall_mem_cons.mpr ⟨⟨hc, hstep⟩, hmoves⟩⟩

theorem Moves.run_eq {c last : Client α} {ms : List (Move α)} (h : Moves c ms last) :
    c.run (ms.map Move.signal) = .ok (last, ms.flatMap Move.acts) := by
  induction h with
  | nil c => rfl
  | cons awaited step rest ih =>
    simp only [List.map_cons, run, step, bind, Except.bind, ih]
    rfl

theorem Moves.asks {c last : Client α} {ms : List (Move α)} (h : Moves c ms last)
    (hc : c.InPhase) : Asks c (ms.flatMap Move.calls) last (ms.flatMap Move.acts) := by
  induction h with
  | nil c => exact ⟨trivial, rfl, rfl, rfl⟩
  | cons awaited step rest ih =>
    have hstep := steps_of_step hc awaited step
    exact (hstep.asks hc).append (ih (hstep.inPhase hc))

theorem Moves.ended_iff {c last : Client α} {ms : List (Move α)} (h : Moves c ms last)
    (hc : c.InPhase) : last.ended = true ↔ c.ended = true ∨ .inputClosed ∈ ms.map Move.signal := by
  induction h with
  | nil c => simp
  | cons awaited step rest ih =>
    have hstep := steps_of_step hc awaited step
    rw [ih (hstep.inPhase hc), hstep.ended_iff, List.map_cons, List.mem_cons, or_assoc]
    simp only [eq_comm]

theorem Moves.of_stopped {c last : Client α} {ms : List (Move α)} (h : Moves c ms last)
    (hc : c.phase = .stopped) : ms = [] := by
  cases h with
  | nil => rfl
  | cons awaited step rest => simp [awaits, hc] at awaited

theorem Moves.stopped_iff {c last : Client α} {ms : List (Move α)} (h : Moves c ms last)
    (hc : c.InPhase) (hrunning : c.phase ≠ .stopped) :
    last.phase = .stopped ↔ ∃ m ∈ ms, m.signal = .taken ∧ m.before.queue = [] := by
  induction h with
  | nil c => simpa using hrunning
  | @cons c next last s acts ms awaited step rest ih =>
    have hstep := steps_of_step hc awaited step
    simp only [List.mem_cons, exists_eq_or_imp]
    by_cases hs : s = .taken ∧ c.queue = []
    · have hnext : next.phase = .stopped := hstep.stopped_iff.mpr hs
      obtain rfl := rest.of_stopped hnext
      cases rest
      simp [hnext, hs]
    · have hnext : next.phase ≠ .stopped := mt hstep.stopped_iff.mp hs
      rw [ih (hstep.inPhase hc) hnext]
      simp [hs]

theorem Moves.queue {c last : Client α} {ms : List (Move α)} (h : Moves c ms last)
    (hc : c.InPhase) :
    c.queue ++ (ms.map Move.signal).filterMap Signal.input? =
      ms.filterMap Move.taken? ++ last.queue := by
  induction h with
  | nil c => simp
  | @cons c next last s acts ms awaited step rest ih =>
    have hstep := steps_of_step hc awaited step
    rw [List.map_cons, filterMap_toList_cons, filterMap_toList_cons, ← List.append_assoc,
      hstep.queue, List.append_assoc, ih (hstep.inPhase hc), List.append_assoc]

theorem Moves.sent_sublist {c last : Client α} {ms : List (Move α)} (h : Moves c ms last)
    (hempty : ∀ m ∈ ms, m.signal = .connected → m.before.queue = []) (hc : c.InPhase) :
    (ms.filterMap Move.message?).Sublist
      ((c.serviceable ++ ms.filterMap Move.served?).filterMap UserInput.message?) := by
  induction h with
  | nil c => simp
  | @cons c next last s acts ms awaited step rest ih =>
    have hstep := steps_of_step hc awaited step
    obtain ⟨hfirst, hrest⟩ := List.forall_mem_cons.mp hempty
    have hhead := hstep.sent_sublist hfirst
    have htail := ih hrest (hstep.inPhase hc)
    rw [filterMap_toList_cons, filterMap_toList_cons, ← List.append_assoc, List.filterMap_append]
    rw [List.filterMap_append] at htail
    refine ((List.Sublist.refl _).append htail).trans ?_
    rw [← List.append_assoc]
    exact hhead.append (List.Sublist.refl _)

/-- Whatever happens to a client, in whatever order, it is never an error. Its lifecycle is asked to
connect only while the link is closed, told that the link is open only while it connects, and asked
for a message only while the link is open. The client stops once it has taken all of its input and
the channel is closed, with the view detached. The view is attached for each connection and
detached after it; the trace has every line that comes. The host is sent what is taken from the
channel while a connection is served, each input once and in its order. That may be input that has
arrived while the client was connecting; there is none if the channel is empty whenever a
connection is accepted. -/
theorem moves_serve (session : Session) (backoff : Backoff α) {ms : List (Move α)}
    {last : Client α} (h : Moves (start (.create session backoff)) ms last) :
    let first := Lifecycle.create session backoff
    let calls := .beginConnect :: ms.flatMap Move.calls
    let acts := ms.flatMap Move.acts
    let marks := acts.filterMap Act.mark?
    let sent := acts.filterMap Act.sent?
    ((start first).run (ms.map Move.signal) = .ok (last, acts) ∧
        ∀ s e, last.step s ≠ .error e) ∧
      (first.Timely calls ∧ (∀ e, .outbound (.error e) ∉ (first.run calls).replies) ∧
        last.lifecycle = (first.run calls).last ∧
        acts.filterMap Act.event? = (first.run calls).events ∧
        sent = (first.run calls).replies.filterMap Lifecycle.Reply.message?) ∧
      ((last.phase = .stopped ↔ ∃ m ∈ ms, m.signal = .taken ∧ m.before.queue = []) ∧
        (last.phase = .stopped → .inputClosed ∈ ms.map Move.signal ∧ last.queue = [] ∧
          last.lifecycle.link = .closed ∧ last.lifecycle.attached = false)) ∧
      (marks = ms.filterMap Move.mark? ∧
        (∀ i < marks.length, marks[i]? = some (if i % 2 = 0 then .attach else .detach)) ∧
        (last.lifecycle.attached = true ↔ last.phase = .serving)) ∧
      (sent = ms.filterMap Move.message? ∧
        (∀ m ∈ ms, m.before.phase ≠ .serving → m.acts.filterMap Act.sent? = []) ∧
        (ms.map Move.signal).filterMap Signal.input? =
          ms.filterMap Move.taken? ++ last.queue ∧
        ((∀ m ∈ ms, m.signal = .connected → m.before.queue = []) →
          sent.Sublist ((ms.filterMap Move.served?).filterMap UserInput.message?))) ∧
      acts.filterMap Act.traced? = (ms.map Move.signal).filterMap Signal.line? := by
  intro first calls acts marks sent
  -- a client starts as one that waits would try again
  have hidle : InPhase (⟨first, .waiting, [], false⟩ : Client α) := ⟨rfl, rfl, nofun⟩
  have hbegin : Steps ⟨first, .waiting, [], false⟩ .timer (start first) [] := .retry rfl
  have hstart : (start first).InPhase := inPhase_start rfl
  obtain ⟨hlast, hmoves⟩ := h.sound hstart
  have hasks : Asks ⟨first, .waiting, [], false⟩ calls last acts :=
    (hbegin.asks hidle).append (h.asks hstart)
  have hmarks : marks = ms.filterMap Move.mark? :=
    filterMap_acts fun m hm => (hmoves m hm).2.marks (hmoves m hm).1
  have hsent : sent = ms.filterMap Move.message? :=
    filterMap_acts fun m hm => (hmoves m hm).2.sent
  have htraced : acts.filterMap Act.traced? = ms.filterMap fun m => m.signal.line? :=
    filterMap_acts fun m hm => (hmoves m hm).2.traced
  refine ⟨⟨h.run_eq, ?_⟩, ⟨hasks.timely, hasks.timely.answered, hasks.last, hasks.events,
    hasks.sent⟩, ⟨h.stopped_iff hstart nofun, ?_⟩, ⟨hmarks, ?_, ?_⟩, ⟨hsent, ?_, ?_, ?_⟩, ?_⟩
  · intro s e herror
    obtain ⟨next, acts, hstep, -⟩ := step_ok hlast s
    rw [herror] at hstep
    cases hstep
  · intro hstopped
    obtain ⟨hended, hqueue⟩ := hlast.drained hstopped
    refine ⟨((h.ended_iff hstart).mp hended).resolve_left nofun, hqueue, ?_⟩
    rw [hlast.link, hlast.attached, hstopped]
    exact ⟨rfl, rfl⟩
  · have hturns := first.turns_run calls
    rw [← hasks.events, ← Act.filterMap_mark?] at hturns
    intro i hi
    rw [hturns.getElem?_eq i hi]
    by_cases hp : i % 2 = 0 <;> simp [hp, Event.turn, first, Lifecycle.create]
  · rw [hlast.attached, decide_eq_true_iff]
  · intro m hm hphase
    rw [(hmoves m hm).2.sent, Move.message?, if_neg hphase]
    rfl
  · exact h.queue hstart
  · intro hempty
    rw [hsent]
    exact h.sent_sublist hempty hstart
  · rw [htraced, List.filterMap_map]
    rfl

theorem moves_serve_reconnect :
    let outside := "\x7b\"screen\":\x7b\"cursor\":\x7b\"enabled\":true,\"column\":1," ++
      "\"row\":25\x7d\x7d\x7d"
    let enter : UserInput := .actions [.plain "Enter"]
    ∃ (ms : List (Move Double)) (last : Client Double),
      Moves (start (.create default .initial)) ms last ∧
        ms.map Move.signal =
          [.refused, .input enter, .taken, .timer, .connected, .input enter, .taken, .line outside,
            .input enter, .inputClosed, .taken, .timer, .connected, .taken] ∧
        last.lifecycle.link = .closed ∧
        (ms.flatMap Move.acts).filterMap Act.mark? = [.attach, .detach, .attach, .detach] ∧
        (ms.flatMap Move.acts).filterMap Act.sent? = enter.message?.toList ∧
        (ms.flatMap Move.acts).filterMap Act.traced? = [outside] := by
  intro outside enter
  let served : Lifecycle Double :=
    (Lifecycle.create default .initial).beginConnect.shutdown.1.beginConnect.opened.1
  obtain ⟨e, hrejected⟩ : ∃ e, (served.receive outside).2.2 = .error e := by
    have hfails : (served.receive outside).2.2.isOk = false := by decide +kernel
    cases h : (served.receive outside).2.2 with
    | error e => exact ⟨e, rfl⟩
    | ok u => simp [h, Except.isOk, Except.toBool] at hfails
  have hline := receive_rejected (c := ⟨served, .serving, [], false⟩) hrejected
  have h : Moves (start (.create default .initial) : Client Double) _ _ :=
    .cons (s := .refused) rfl rfl <|
    .cons (s := .input enter) rfl rfl <|
    .cons (s := .taken) rfl rfl <|
    .cons (s := .timer) rfl rfl <|
    .cons (s := .connected) rfl rfl <|
    .cons (s := .input enter) rfl rfl <|
    .cons (s := .taken) rfl rfl <|
    .cons (s := .line outside) rfl (congrArg Except.ok hline) <|
    .cons (s := .input enter) rfl rfl <|
    .cons (s := .inputClosed) rfl rfl <|
    .cons (s := .taken) rfl rfl <|
    .cons (s := .timer) rfl rfl <|
    .cons (s := .connected) rfl rfl <|
    .cons (s := .taken) rfl rfl <|
    .nil _
  have hserve := moves_serve _ _ h
  refine ⟨_, _, h, rfl, (hserve.2.2.1.2 rfl).2.2.1, ?_, ?_, ?_⟩
  · rw [hserve.2.2.2.1.1]
    rfl
  · rw [hserve.2.2.2.2.1.1]
    rfl
  · rw [hserve.2.2.2.2.2]
    rfl

/-- After a connection the timer has run out, and input arrives while the client connects again: it
is neither sent at once nor dropped, but sent on the next connection. -/
theorem moves_serve_late :
    let enter : UserInput := .actions [.plain "Enter"]
    ∃ (ms : List (Move Double)) (last : Client Double),
      Moves (start (.create default .initial)) ms last ∧
        ms.map Move.signal = [.connected, .hangUp, .timer, .input enter, .connected, .taken] ∧
        ms.filterMap Move.served? = [] ∧ enter.message?.isSome ∧
        (ms.flatMap Move.acts).filterMap Act.sent? = enter.message?.toList := by
  intro enter
  have h : Moves (start (.create default .initial) : Client Double) _ _ :=
    .cons (s := .connected) rfl rfl <|
    .cons (s := .hangUp) rfl rfl <|
    .cons (s := .timer) rfl rfl <|
    .cons (s := .input enter) rfl rfl <|
    .cons (s := .connected) rfl rfl <|
    .cons (s := .taken) rfl rfl <|
    .nil _
  exact ⟨_, _, h, rfl, rfl, rfl, rfl⟩

-- a host greets, says something that is no message, shows a screen and takes a key, and then the
-- input of the user ends
example :
    (((start (.create default .initial : Lifecycle Double)).run
      [.connected,
        .line ("\x7b\"initialize\":[\x7b\"screen-mode\":\x7b\"model\":2,\"rows\":24," ++
          "\"columns\":80\x7d\x7d,\x7b\"connection\":\x7b\"state\":\"connected-3270\"," ++
          "\"host\":\"loopback\"\x7d\x7d]\x7d"),
        .line "this is not json",
        .line ("\x7b\"screen\":\x7b\"cursor\":\x7b\"enabled\":true,\"row\":1,\"column\":6\x7d," ++
          "\"rows\":[\x7b\"row\":1,\"changes\":[\x7b\"column\":1,\"text\":\"HELLO\"\x7d]\x7d]" ++
          "\x7d\x7d"),
        .input (.key ⟨"x", ⟨false, false, false⟩⟩), .inputClosed, .taken, .taken]).toOption.map
          fun (c, acts) =>
            (decide (c.phase = .stopped), c.lifecycle.session.status.get .connection,
              "HELLO".toList.isPrefixOf (c.lifecycle.session.screen.rowText 0).toList,
              acts.filterMap Act.sent?, (acts.filterMap Act.traced?).length)) =
      some (true, "3", true, ["\x7b\"run\":\x7b\"actions\":[\x7b\"action\":\"Key\"," ++
        "\"args\":[\"x\"]\x7d]\x7d\x7d"], 3) := by
  decide +kernel

end Client

end Display3270
