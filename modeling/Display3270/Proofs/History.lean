import Display3270.Proofs.Watching

namespace Display3270

theorem getLast?_filterMap_append {α β : Type} (write : α → Option β) (xs ys : List α) :
    ((xs ++ ys).filterMap write).getLast? =
      ((ys.filterMap write).getLast?).or (xs.filterMap write).getLast? := by
  rw [List.filterMap_append, List.getLast?_append]

theorem getLast?_filterMap_singleton {α β : Type} (write : α → Option β) (x : α) :
    ([x].filterMap write).getLast? = write x := by
  rw [List.filterMap_cons, List.filterMap_nil]
  cases write x <;> rfl

theorem getLast?_filterMap_concat {α β : Type} (write : α → Option β) (xs : List α) (x : α) :
    ((xs ++ [x]).filterMap write).getLast? = (write x).or (xs.filterMap write).getLast? := by
  rw [getLast?_filterMap_append, getLast?_filterMap_singleton]

def Notice.sparesScreen : Notice → Bool
  | .screenMode _ | .screen _ | .erase _ => false
  | _ => true

namespace Session

theorem notify_screen {s t : Session} {n : Notice} {events : List Event}
    (h : s.notify n = ⟨t, events, .ok ()⟩) :
    (∃ mode, n = .screenMode mode ∧
      t.screen = s.screen.resize mode.rows.toNat mode.columns.toNat) ∨
    (∃ update told, n = .screen update ∧ s.screen.update update = ⟨t.screen, told, .ok ()⟩) ∨
    (∃ erase, n = .erase erase ∧ t.screen = s.screen.erase erase) ∨
    (n.sparesScreen = true ∧ t.screen = s.screen) := by
  rcases notify_ok h with ⟨mode, rfl, rfl, -⟩ | ⟨update, screen, told, rfl, hu, rfl, -⟩ |
    ⟨erase, rfl, rfl, -⟩ | ⟨connection, rfl, rfl, -⟩ | ⟨field, rfl, rfl, -⟩ | ⟨hp, rfl, -⟩
  · exact .inl ⟨mode, rfl, rfl⟩
  · exact .inr (.inl ⟨update, told, rfl, hu⟩)
  · exact .inr (.inr (.inl ⟨erase, rfl, rfl⟩))
  · exact .inr (.inr (.inr ⟨rfl, rfl⟩))
  · exact .inr (.inr (.inr ⟨rfl, rfl⟩))
  · have hspares : n.sparesScreen = true := by cases n <;> first | rfl | cases hp
    exact .inr (.inr (.inr ⟨hspares, rfl⟩))

def effective (s : Session) : List Notice → List Notice
  | [] => []
  | n :: ns =>
    let first := s.dispatch (.notice n)
    match first.result with
    | .error _ => []
    | .ok () => n :: effective first.session ns

def history (s : Session) : List String → List Notice
  | [] => []
  | text :: texts =>
    let told := match Indication.decode text with
      | .error _ => []
      | .ok i => s.effective i.leaves
    told ++ history (s.process text).session texts

theorem Applied.append {s t u : Session} {ns ms : List Notice} {events more : List Event}
    (first : Applied s ns t events) (rest : Applied t ms u more) :
    Applied s (ns ++ ms) u (events ++ more) := by
  induction first with
  | nil s => exact rest
  | cons hn hns ih =>
    rw [List.append_assoc]
    exact .cons hn (ih rest)

theorem applied_effective (s : Session) (ns : List Notice) :
    Applied s (s.effective ns) (s.dispatchEach ns).session (s.dispatchEach ns).events := by
  induction ns generalizing s with
  | nil => exact .nil s
  | cons n ns ih =>
    rcases s.dispatch_cases n with ⟨t, events, hn⟩ | ⟨e, hn⟩
    · rw [dispatchEach_cons_ok hn]
      simp only [effective, hn]
      exact .cons hn (ih t)
    · rw [dispatchEach_cons_error hn]
      simp only [effective, hn]
      exact .nil s

theorem applied_history (s : Session) (texts : List String) :
    Applied s (s.history texts) (s.feed texts).1 (s.feed texts).2 := by
  induction texts generalizing s with
  | nil => exact .nil s
  | cons text texts ih =>
    have hp := s.process_eq text
    cases hd : Indication.decode text with
    | error e =>
      rw [hd] at hp
      simp only [history, feed, hd, hp, List.nil_append]
      exact ih s
    | ok i =>
      rw [hd] at hp
      simp only [history, feed, hd, hp]
      exact (s.applied_effective i.leaves).append (ih _)

theorem notify_of_dispatch {s t : Session} {n : Notice} {events : List Event}
    (h : s.dispatch (.notice n) = ⟨t, events, .ok ()⟩) : s.notify n = ⟨t, events, .ok ()⟩ :=
  s.dispatch_notice n ▸ h

theorem Applied.keeps {P : List Notice → Session → Prop}
    (hstep : ∀ {before : List Notice} {s t : Session} {n : Notice} {events : List Event},
      P before s → s.notify n = ⟨t, events, .ok ()⟩ → P (before ++ [n]) t)
    {s t : Session} {ns : List Notice} {events : List Event} (h : Applied s ns t events)
    (before : List Notice) (hs : P before s) : P (before ++ ns) t := by
  induction h generalizing before with
  | nil s => rwa [List.append_nil]
  | cons hn hrest ih =>
    rw [List.append_cons]
    exact ih _ (hstep hs (notify_of_dispatch hn))

theorem feed_keeps {P : List Notice → Session → Prop}
    (hstep : ∀ {before : List Notice} {s t : Session} {n : Notice} {events : List Event},
      P before s → s.notify n = ⟨t, events, .ok ()⟩ → P (before ++ [n]) t)
    {s : Session} (hs : P [] s) (texts : List String) :
    P (s.history texts) (s.feed texts).1 :=
  (s.applied_history texts).keeps hstep [] hs

theorem Applied.last {α : Type} (part : Session → Option α) (write : Notice → Option α)
    (hpart : ∀ {s t : Session} {n : Notice} {events : List Event},
      s.notify n = ⟨t, events, .ok ()⟩ → part t = (write n).or (part s))
    {s t : Session} {ns : List Notice} {events : List Event} (h : Applied s ns t events) :
    part t = ((ns.filterMap write).getLast?).or (part s) := by
  refine h.keeps (P := fun ns u => part u = ((ns.filterMap write).getLast?).or (part s)) ?_ [] rfl
  intro before u v n events hu hn
  rw [getLast?_filterMap_concat, Option.or_assoc, ← hu]
  exact hpart hn

end Session

end Display3270
