import Display3270.Proofs.Strokes
import Display3270.Session

namespace Display3270

namespace Indication

mutual

def leaves : Indication → List Notice
  | .notice n => [n]
  | .batch members => memberLeaves members

def memberLeaves : List Indication → List Notice
  | [] => []
  | i :: is => leaves i ++ memberLeaves is

end

end Indication

namespace Session

def dispatchEach (s : Session) : List Notice → Outcome DispatchError
  | [] => ⟨s, [], .ok ()⟩
  | n :: ns =>
    let first := s.dispatch (.notice n)
    match first.result with
    | .error e => ⟨first.session, first.events, .error e⟩
    | .ok () =>
      let rest := dispatchEach first.session ns
      ⟨rest.session, first.events ++ rest.events, rest.result⟩

inductive Applied : Session → List Notice → Session → List Event → Prop
  | nil (s : Session) : Applied s [] s []
  | cons {s t u : Session} {n : Notice} {ns : List Notice} {events more : List Event}
      (first : s.dispatch (.notice n) = ⟨t, events, .ok ()⟩) (rest : Applied t ns u more) :
      Applied s (n :: ns) u (events ++ more)

theorem notify_cases (s : Session) (n : Notice) :
    (∃ t events, s.notify n = ⟨t, events, .ok ()⟩) ∨ ∃ e, s.notify n = ⟨s, [], .error e⟩ := by
  cases n
  case screen u =>
    simp only [notify]
    rcases s.screen.update_cases u with ⟨t, events, hu⟩ | ⟨e, hu⟩
    · exact .inl ⟨_, _, by rw [hu]⟩
    · exact .inr ⟨⟨e⟩, by rw [hu]⟩
  all_goals exact .inl ⟨_, _, rfl⟩

theorem dispatch_notice (s : Session) (n : Notice) : s.dispatch (.notice n) = s.notify n := by
  rw [dispatch]

theorem dispatch_cases (s : Session) (n : Notice) :
    (∃ t events, s.dispatch (.notice n) = ⟨t, events, .ok ()⟩) ∨
      ∃ e, s.dispatch (.notice n) = ⟨s, [], .error e⟩ := by
  rw [dispatch_notice]
  exact s.notify_cases n

theorem dispatchEach_nil (s : Session) : s.dispatchEach [] = ⟨s, [], .ok ()⟩ := rfl

theorem dispatchEach_cons_ok {s t : Session} {n : Notice} {events : List Event}
    (h : s.dispatch (.notice n) = ⟨t, events, .ok ()⟩) (ns : List Notice) :
    s.dispatchEach (n :: ns) =
      ⟨(t.dispatchEach ns).session, events ++ (t.dispatchEach ns).events,
        (t.dispatchEach ns).result⟩ := by
  simp only [dispatchEach, h]

theorem dispatchEach_cons_error {s t : Session} {n : Notice} {events : List Event}
    {e : DispatchError} (h : s.dispatch (.notice n) = ⟨t, events, .error e⟩) (ns : List Notice) :
    s.dispatchEach (n :: ns) = ⟨t, events, .error e⟩ := by
  simp only [dispatchEach, h]

theorem dispatchEach_append (s : Session) (ns ms : List Notice) :
    s.dispatchEach (ns ++ ms) =
      match s.dispatchEach ns with
      | ⟨t, events, .error e⟩ => ⟨t, events, .error e⟩
      | ⟨t, events, .ok ()⟩ =>
        ⟨(t.dispatchEach ms).session, events ++ (t.dispatchEach ms).events,
          (t.dispatchEach ms).result⟩ := by
  induction ns generalizing s with
  | nil => simp [dispatchEach_nil]
  | cons n ns ih =>
    rcases s.dispatch_cases n with ⟨t, events, h⟩ | ⟨e, h⟩
    · rw [List.cons_append, dispatchEach_cons_ok h, dispatchEach_cons_ok h, ih t]
      rcases t.dispatchEach ns with ⟨u, more, e | ⟨⟩⟩ <;> simp
    · rw [List.cons_append, dispatchEach_cons_error h, dispatchEach_cons_error h]

mutual

theorem dispatch_eq_dispatchEach (s : Session) :
    ∀ i : Indication, s.dispatch i = s.dispatchEach i.leaves
  | .notice n => by
    rcases s.dispatch_cases n with ⟨t, events, h⟩ | ⟨e, h⟩
    · rw [Indication.leaves, dispatchEach_cons_ok h, dispatchEach_nil, h, List.append_nil]
    · rw [Indication.leaves, dispatchEach_cons_error h, h]
  | .batch members => by
    rw [dispatch, Indication.leaves, dispatchAll_eq_dispatchEach s members]

theorem dispatchAll_eq_dispatchEach (s : Session) :
    ∀ is : List Indication, s.dispatchAll is = s.dispatchEach (Indication.memberLeaves is)
  | [] => by rw [dispatchAll, Indication.memberLeaves, dispatchEach_nil]
  | i :: is => by
    have hi := dispatch_eq_dispatchEach s i
    have his := fun t : Session => dispatchAll_eq_dispatchEach t is
    rw [dispatchAll, Indication.memberLeaves, dispatchEach_append, hi]
    rcases s.dispatchEach i.leaves with ⟨t, events, e | ⟨⟩⟩
    · rfl
    · simp only [his t]

end

theorem dispatchEach_ok_iff (s t : Session) (ns : List Notice) (events : List Event) :
    s.dispatchEach ns = ⟨t, events, .ok ()⟩ ↔ Applied s ns t events := by
  induction ns generalizing s events with
  | nil =>
    constructor
    · intro h
      cases h
      exact .nil _
    · intro h
      cases h
      rfl
  | cons n ns ih =>
    constructor
    · intro h
      rcases s.dispatch_cases n with ⟨u, first, hn⟩ | ⟨e, hn⟩
      · rw [dispatchEach_cons_ok hn] at h
        obtain ⟨rfl, rfl, hr⟩ := Outcome.mk.inj h
        refine .cons hn ((ih u _).mp ?_)
        rw [← hr]
      · rw [dispatchEach_cons_error hn] at h
        cases h
    · intro h
      cases h with
      | cons hn hrest => rw [dispatchEach_cons_ok hn, (ih _ _).mpr hrest]

theorem dispatchEach_error_iff (s t : Session) (ns : List Notice) (events : List Event)
    (e : DispatchError) :
    s.dispatchEach ns = ⟨t, events, .error e⟩ ↔
      ∃ before n after, ns = before ++ n :: after ∧ Applied s before t events ∧
        t.dispatch (.notice n) = ⟨t, [], .error e⟩ := by
  induction ns generalizing s events with
  | nil =>
    constructor
    · intro h
      cases h
    · rintro ⟨before, n, after, h, -⟩
      simp at h
  | cons n ns ih =>
    rcases s.dispatch_cases n with ⟨u, first, hn⟩ | ⟨e', hn⟩
    · rw [dispatchEach_cons_ok hn]
      constructor
      · intro h
        obtain ⟨ht, rfl, hr⟩ := Outcome.mk.inj h
        have hrest : u.dispatchEach ns = ⟨t, (u.dispatchEach ns).events, .error e⟩ := by
          rw [← ht, ← hr]
        obtain ⟨before, m, after, rfl, happ, hm⟩ := (ih u _).mp hrest
        exact ⟨n :: before, m, after, rfl, .cons hn happ, hm⟩
      · rintro ⟨before, m, after, hns, happ, hm⟩
        cases happ with
        | nil =>
          obtain ⟨rfl, rfl⟩ := List.cons.inj hns
          rw [hn] at hm
          cases hm
        | cons hb hrest =>
          obtain ⟨rfl, rfl⟩ := List.cons.inj hns
          obtain ⟨rfl, rfl, -⟩ := Outcome.mk.inj (hn.symm.trans hb)
          rw [(ih _ _).mpr ⟨_, m, after, rfl, hrest, hm⟩]
    · rw [dispatchEach_cons_error hn]
      constructor
      · intro h
        obtain ⟨rfl, rfl, he⟩ := Outcome.mk.inj h
        cases he
        exact ⟨[], n, ns, rfl, .nil s, hn⟩
      · rintro ⟨before, m, after, hns, happ, hm⟩
        cases happ with
        | nil =>
          obtain ⟨rfl, rfl⟩ := List.cons.inj hns
          exact hn.symm.trans hm
        | cons hb hrest =>
          obtain ⟨rfl, rfl⟩ := List.cons.inj hns
          rw [hn] at hb
          cases hb

theorem process_eq (s : Session) (text : String) :
    s.process text =
      match Indication.decode text with
      | .error e => ⟨s, [], .error (.decode e)⟩
      | .ok i =>
        let done := s.dispatchEach i.leaves
        ⟨done.session, done.events, done.result.mapError .dispatch⟩ := by
  unfold process
  cases Indication.decode text with
  | error e => rfl
  | ok i => simp only [dispatch_eq_dispatchEach]

/-- An indication is applied leaf by leaf, however its batches are nested. It succeeds exactly when
every leaf is applied; otherwise the leaves before the first that fails are applied, and that one
and those after it change nothing and tell nothing. -/
theorem dispatch_leaves (s : Session) (i : Indication) :
    s.dispatch i = s.dispatchEach i.leaves ∧
      (∀ t events, s.dispatch i = ⟨t, events, .ok ()⟩ ↔ Applied s i.leaves t events) ∧
      (∀ t events e, s.dispatch i = ⟨t, events, .error e⟩ ↔
        ∃ before n after, i.leaves = before ++ n :: after ∧ Applied s before t events ∧
          t.dispatch (.notice n) = ⟨t, [], .error e⟩) ∧
      ∀ text, s.process text =
        match Indication.decode text with
        | .error e => ⟨s, [], .error (.decode e)⟩
        | .ok j =>
          let done := s.dispatchEach j.leaves
          ⟨done.session, done.events, done.result.mapError .dispatch⟩ := by
  have hi := s.dispatch_eq_dispatchEach i
  refine ⟨hi, ?_, ?_, s.process_eq⟩
  · intro t events
    rw [hi]
    exact dispatchEach_ok_iff s t i.leaves events
  · intro t events e
    rw [hi]
    exact dispatchEach_error_iff s t i.leaves events e

end Session

end Display3270
