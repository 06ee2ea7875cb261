import Display3270.Proofs.Calls

namespace Display3270

def Event.turn : Bool → Event
  | false => .attach
  | true => .detach

inductive Turns : Bool → List Event → Bool → Prop
  | nil (b : Bool) : Turns b [] b
  | cons {b c : Bool} {events : List Event} (rest : Turns (!b) events c) :
      Turns b (.turn b :: events) c

namespace Turns

theorem append {a b c : Bool} {events more : List Event} (first : Turns a events b)
    (rest : Turns b more c) : Turns a (events ++ more) c := by
  induction first with
  | nil b => exact rest
  | cons _ ih => exact .cons (ih rest)

theorem getElem?_eq {b c : Bool} {events : List Event} (h : Turns b events c) :
    ∀ i < events.length, events[i]? = some (.turn (if i % 2 = 0 then b else !b)) := by
  induction h with
  | nil b => simp
  | @cons b c events rest ih =>
    intro i hi
    cases i with
    | zero => rfl
    | succ i =>
      rw [List.getElem?_cons_succ, ih i (by simpa using hi)]
      by_cases hp : i % 2 = 0
      · have hs : (i + 1) % 2 ≠ 0 := by omega
        rw [if_pos hp, if_neg hs]
      · have hs : (i + 1) % 2 = 0 := by omega
        rw [if_neg hp, if_pos hs, Bool.not_not]

theorem attached_iff {b c : Bool} {events : List Event} (h : Turns b events c) :
    c = true ↔ events.getLast?.getD (.turn (!b)) = .attach := by
  induction h with
  | nil b => cases b <;> simp [Event.turn]
  | @cons b c events rest ih => rw [ih, List.getLast?_cons, Bool.not_not, Option.getD_some]

end Turns

namespace Lifecycle

variable {α : Type}

structure Consistent (l : Lifecycle α) : Prop where
  opened : l.link = .opened → l.attached = true
  closed : l.link = .closed → l.attached = false

theorem Consistent.of_sameLink {l m : Lifecycle α} (h : l.Consistent) (hm : SameLink m l) :
    m.Consistent := by
  constructor
  · intro ho
    rw [hm.attached]
    exact h.opened (hm.link.symm.trans ho)
  · intro hc
    rw [hm.attached]
    exact h.closed (hm.link.symm.trans hc)

variable [LE α] [LT α] [DecidableLE α] [DecidableLT α] [Mul α] [OfNat α 0] [OfNat α 1]

def Orderly (l : Lifecycle α) (calls : List Call) : Prop :=
  ∀ i < calls.length, calls[i]? = some .beginConnect → (l.run (calls.take i)).last.link = .closed

instance (l : Lifecycle α) (calls : List Call) : Decidable (l.Orderly calls) :=
  inferInstanceAs (Decidable (∀ i < calls.length, _))

theorem turns_call (l : Lifecycle α) (c : Call) :
    Turns l.attached ((l.call c).2.1.filter Event.isLink) (l.call c).1.attached := by
  cases hc : c.isLink with
  | false =>
    obtain ⟨hsame, hshown, -⟩ := l.call_display hc
    rw [(Event.filter_of_display hshown).1, hsame.attached]
    exact .nil _
  | true =>
    rw [(Event.filter_of_link (l.call_link_session hc).2).1]
    cases c
    case beginConnect => exact .nil _
    case opened =>
      cases ha : l.attached <;> simp only [call, Lifecycle.opened, ha]
      · exact .cons (.nil _)
      · exact .nil _
    case closed =>
      cases ha : l.attached <;> simp only [call, Lifecycle.closed, shutdown, ha]
      · exact .nil _
      · exact .cons (.nil _)
    case shutdown =>
      cases ha : l.attached <;> simp only [call, shutdown, ha]
      · exact .nil _
      · exact .cons (.nil _)
    all_goals cases hc

theorem turns_run (l : Lifecycle α) (calls : List Call) :
    Turns l.attached ((l.run calls).events.filter Event.isLink) (l.run calls).last.attached := by
  induction calls generalizing l with
  | nil => exact .nil _
  | cons c cs ih =>
    rw [run_cons, List.filter_append]
    exact (l.turns_call c).append (ih _)

theorem Consistent.call {l : Lifecycle α} (h : l.Consistent) (c : Call) :
    (l.call c).1.Consistent := by
  cases hc : c.isLink with
  | false => exact h.of_sameLink (l.call_display hc).1
  | true =>
    cases c
    case beginConnect => exact ⟨nofun, nofun⟩
    case opened => exact ⟨fun _ => rfl, nofun⟩
    case closed => exact ⟨nofun, fun _ => rfl⟩
    case shutdown => exact ⟨nofun, fun _ => rfl⟩
    all_goals cases hc

theorem Consistent.run {l : Lifecycle α} (h : l.Consistent) (calls : List Call) :
    (l.run calls).last.Consistent := by
  induction calls generalizing l with
  | nil => exact h
  | cons c cs ih => exact ih (h.call c)

theorem Orderly.tail {l : Lifecycle α} {c : Call} {cs : List Call} (h : l.Orderly (c :: cs)) :
    (l.call c).1.Orderly cs := by
  intro i hi hcall
  have hi' : i + 1 < (c :: cs).length := by simpa using hi
  exact h (i + 1) hi' hcall

theorem attached_iff_call {l : Lifecycle α} (h : l.attached = true ↔ l.link = .opened) {c : Call}
    (hc : c = .beginConnect → l.link = .closed) :
    (l.call c).1.attached = true ↔ (l.call c).1.link = .opened := by
  cases hlink : c.isLink with
  | false =>
    have hsame := (l.call_display hlink).1
    rw [hsame.attached, hsame.link]
    exact h
  | true =>
    cases c
    case beginConnect =>
      -- from an open link the attempt would leave the view attached while nothing is open
      have hclosed := hc rfl
      rw [hclosed] at h
      simpa [Lifecycle.call, Lifecycle.beginConnect] using h
    case opened => simp [Lifecycle.call, Lifecycle.opened]
    case closed => simp [Lifecycle.call, Lifecycle.closed, shutdown]
    case shutdown => simp [Lifecycle.call, shutdown]
    all_goals cases hlink

theorem attached_iff_run {l : Lifecycle α} (h : l.attached = true ↔ l.link = .opened)
    {calls : List Call} (ho : l.Orderly calls) :
    (l.run calls).last.attached = true ↔ (l.run calls).last.link = .opened := by
  induction calls generalizing l with
  | nil => exact h
  | cons c cs ih =>
    have hfirst : c = .beginConnect → l.link = .closed := by
      intro hc
      exact ho 0 (by simp) (by simp [hc])
    exact ih (attached_iff_call h hfirst) ho.tail

/-- A view is told to attach and to detach by turns, and to attach first; it is attached exactly if
that is what it was told last. It is attached whenever the link is open and never while it is
closed, and only then if attempts to connect begin while the link is closed. -/
theorem run_alternates (session : Session) (backoff : Backoff α) (calls : List Call) :
    let start := create session backoff
    let done := start.run calls
    let marks := done.events.filter Event.isLink
    (∀ i < marks.length, marks[i]? = some (if i % 2 = 0 then .attach else .detach)) ∧
      (done.last.attached = true ↔ marks.getLast? = some .attach) ∧
      (done.last.link = .opened → done.last.attached = true) ∧
      (done.last.link = .closed → done.last.attached = false) ∧
      (start.Orderly calls → (done.last.attached = true ↔ done.last.link = .opened)) := by
  have hturns := (create session backoff).turns_run calls
  have hconsistent : (create session backoff).Consistent := ⟨nofun, fun _ => rfl⟩
  obtain ⟨hopened, hclosed⟩ := hconsistent.run calls
  refine ⟨?_, ?_, hopened, hclosed, ?_⟩
  · intro i hi
    rw [hturns.getElem?_eq i hi]
    by_cases hp : i % 2 = 0 <;> simp [hp, Event.turn, create]
  · rw [hturns.attached_iff]
    cases (((create session backoff).run calls).events.filter Event.isLink).getLast? <;>
      simp [Event.turn, create]
  · exact attached_iff_run (by simp [create])

theorem run_alternates_reconnect :
    let start : Lifecycle Double := create default .initial
    let calls : List Call :=
      [.shutdown, .beginConnect, .opened, .opened, .receive "\x7b\"bell\":\x7b\x7d\x7d", .closed,
        .beginConnect, .closed, .beginConnect, .opened]
    start.Orderly calls ∧ (start.run calls).last.link = .opened ∧
      (start.run calls).last.attached = true := by
  intro start calls
  have horderly : start.Orderly calls := by decide
  have hopened : (start.run calls).last.link = .opened := by decide
  exact ⟨horderly, hopened, ((run_alternates default .initial calls).2.2.2.2 horderly).mpr hopened⟩

end Lifecycle

end Display3270
