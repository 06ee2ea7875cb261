import Display3270.Proofs.History
import Display3270.Proofs.Indication.Tags

namespace Display3270

def sessionTags : List String :=
  [batchTag, "screen-mode", "screen", "erase", "connection", "oia"]

def Event.handed? : Event → Option Notice
  | .passthrough n => some n
  | _ => none

namespace Notice

theorem passes_of_tag {n : Notice} (h : n.tag ∉ sessionTags) : n.passes = true := by
  cases n
  case screenMode | screen | erase | connection | oia => exact absurd (by simp [tag, sessionTags]) h
  all_goals rfl

theorem passes_iff_tag {n : Notice} (h : ∀ tag body, n = .other tag body → tag ∉ knownTags) :
    n.passes = true ↔ n.tag ∉ sessionTags := by
  refine ⟨?_, passes_of_tag⟩
  intro hpasses
  cases n
  case screenMode | screen | erase | connection | oia => cases hpasses
  case other tag body =>
    have hknown : ∀ t ∈ sessionTags, t ∈ knownTags := by decide
    exact fun htag => h tag body rfl (hknown tag htag)
  all_goals simp [tag, sessionTags, batchTag]

end Notice

namespace Indication

-- On the indication: `ofJson_ok` gives back the shape of the value that it was read from.
mutual

theorem tag_notMem_of_other : ∀ (i : Indication) {j : Json}, ofJson j = .ok i →
    ∀ tag body, Notice.other tag body ∈ i.leaves → tag ∉ knownTags
  | .notice n, j, h, tag, body, hmem => by
    obtain rfl := List.mem_singleton.mp hmem
    rcases ofJson_ok h with ⟨t, b, rfl, hbatch, hread⟩ | ⟨items, members, -, -, hn⟩
    · by_cases ht : t ∈ knownTags
      · rcases readNotice_known ht hbatch b with ⟨cause, hmalformed⟩ | ⟨m, hm, -, hbody⟩
        · cases hmalformed.symm.trans hread
        · cases hm.symm.trans hread
          cases hbody
      · rw [ofJson_unknown ht] at h
        cases h
        exact ht
    · cases hn
  | .batch members, j, h, tag, body, hmem => by
    rcases ofJson_ok h with ⟨t, b, rfl, hbatch, hread⟩ | ⟨items, members', -, hitems, hm⟩
    · obtain ⟨n, hn⟩ := readNotice_ok hread
      cases hn
    · cases hm
      exact tag_notMem_of_otherMember members hitems tag body hmem

theorem tag_notMem_of_otherMember : ∀ (is : List Indication) {js : List Json},
    ofItems js = .ok is → ∀ tag body, Notice.other tag body ∈ memberLeaves is → tag ∉ knownTags
  | [], js, h, tag, body, hmem => by cases hmem
  | i :: is, [], h, tag, body, hmem => by cases h
  | i :: is, j :: js, h, tag, body, hmem => by
    obtain ⟨i', rest, hcons, hi, hrest⟩ := ofItems_cons_ok h
    cases hcons
    rcases List.mem_append.mp hmem with hmem | hmem
    · exact tag_notMem_of_other i hi tag body hmem
    · exact tag_notMem_of_otherMember is hrest tag body hmem

end

theorem passes_iff_tag_of_decode {text : String} {i : Indication} (h : decode text = .ok i)
    {n : Notice} (hn : n ∈ i.leaves) : n.passes = true ↔ n.tag ∉ sessionTags := by
  obtain ⟨j, -, hj⟩ := (decode_eq_ok_iff text i).mp h
  apply Notice.passes_iff_tag
  rintro tag body rfl
  exact tag_notMem_of_other i hj tag body hn

end Indication

namespace Session

theorem notify_handed {s t : Session} {n : Notice} {events : List Event}
    (h : s.notify n = ⟨t, events, .ok ()⟩) :
    events.filterMap Event.handed? = [n].filter Notice.passes := by
  have hnone : ∀ {es : List Event}, (∀ e ∈ es, e.handed? = none) →
      es.filterMap Event.handed? = [] := List.filterMap_eq_nil_iff.mpr
  have hscreen : ∀ {e : Event}, e.isScreen = true → e.handed? = none := by
    intro e he
    cases e <;> first | rfl | cases he
  have htexts : ∀ texts, ∀ e ∈ StatusLine.events texts, e.handed? = none := by
    intro texts e he
    obtain ⟨f, text, rfl⟩ := StatusLine.mem_events he
    rfl
  rcases notify_ok h with ⟨mode, rfl, -, rfl⟩ | ⟨update, screen, told, rfl, hu, -, rfl⟩ |
    ⟨erase, rfl, -, rfl⟩ | ⟨connection, rfl, -, rfl⟩ | ⟨field, rfl, -, rfl⟩ | ⟨hn, -, rfl⟩
  · exact hnone fun e he => hscreen (t.screen.redraw_isScreen e he)
  · rw [List.filterMap_append, hnone (htexts _), List.append_nil]
    exact hnone fun e he => hscreen (Screen.update_isScreen hu e he)
  · exact hnone fun e he => hscreen (t.screen.redraw_isScreen e he)
  · exact hnone (htexts _)
  · exact hnone (htexts _)
  · rw [List.filter_cons_of_pos hn]
    rfl

theorem Applied.handed {s t : Session} {ns : List Notice} {events : List Event}
    (h : Applied s ns t events) : events.filterMap Event.handed? = ns.filter Notice.passes := by
  induction h with
  | nil s => rfl
  | cons hn hrest ih =>
    have hfirst := notify_handed (notify_of_dispatch hn)
    rw [List.filterMap_append, hfirst, ih, ← List.filter_append, List.singleton_append]

theorem dispatch_passes (s : Session) {n : Notice} (h : n.passes = true) :
    s.dispatch (.notice n) = ⟨s, [.passthrough n], .ok ()⟩ := by
  cases n
  case screenMode | screen | erase | connection | oia => cases h
  all_goals rfl

theorem passthrough_notMem_dispatch (s : Session) {n : Notice} (h : n.passes = false)
    (m : Notice) : .passthrough m ∉ (s.dispatch (.notice n)).events := by
  rcases s.dispatch_cases n with ⟨t, events, hn⟩ | ⟨e, hn⟩
  · have ht := s.dispatch_notice n ▸ hn
    intro hmem
    have hhanded := notify_handed ht
    rw [List.filter_cons_of_neg (by simp [h]), List.filter_nil] at hhanded
    rw [hn] at hmem
    cases List.filterMap_eq_nil_iff.mp hhanded _ hmem
  · rw [hn]
    exact List.not_mem_nil

theorem dispatch_cut (s : Session) (i : Indication) :
    ∃ before after, i.leaves = before ++ after ∧
      Applied s before (s.dispatch i).session (s.dispatch i).events ∧
      ((after = [] ∧ (s.dispatch i).result = .ok ()) ∨
        ∃ n rest e, after = n :: rest ∧ (s.dispatch i).result = .error e ∧
          (s.dispatch i).session.dispatch (.notice n) =
            ⟨(s.dispatch i).session, [], .error e⟩) := by
  rw [s.dispatch_eq_dispatchEach i]
  rcases hd : s.dispatchEach i.leaves with ⟨t, events, e | ⟨⟩⟩
  · obtain ⟨before, n, after, hleaves, happlied, hn⟩ :=
      (dispatchEach_error_iff s t i.leaves events e).mp hd
    exact ⟨before, n :: after, hleaves, happlied, .inr ⟨n, after, e, rfl, rfl, hn⟩⟩
  · have happlied := (dispatchEach_ok_iff s t i.leaves events).mp hd
    exact ⟨i.leaves, [], by simp, happlied, .inl ⟨rfl, rfl⟩⟩

/-- What no part of the session is about is handed to the view: of every message the leaves with
other tags than those of the session, each once and in order, however they are nested, up to the
first leaf that fails. Such a leaf is always applied, does nothing else, and none of the others is
ever handed on. -/
theorem process_passthrough (s : Session) (text : String) :
    (∀ n : Notice, n.tag ∉ sessionTags →
      s.dispatch (.notice n) = ⟨s, [.passthrough n], .ok ()⟩) ∧
    match Indication.decode text with
    | .error _ => (s.process text).events = []
    | .ok i =>
      (∀ n ∈ i.leaves, n.tag ∈ sessionTags → ∀ (t : Session) m,
        .passthrough m ∉ (t.dispatch (.notice n)).events) ∧
      ∃ before after, i.leaves = before ++ after ∧
        Applied s before (s.process text).session (s.process text).events ∧
        ((after = [] ∧ (s.process text).result = .ok ()) ∨
          ∃ n rest e, after = n :: rest ∧ (s.process text).result = .error (.dispatch e) ∧
            (s.process text).session.dispatch (.notice n) =
              ⟨(s.process text).session, [], .error e⟩) ∧
        (s.process text).events.filterMap Event.handed? =
          before.filter fun n => n.tag ∉ sessionTags := by
  refine ⟨fun n hn => s.dispatch_passes (Notice.passes_of_tag hn), ?_⟩
  unfold process
  cases hd : Indication.decode text with
  | error e => rfl
  | ok i =>
    have htag : ∀ n ∈ i.leaves, n.passes = true ↔ n.tag ∉ sessionTags :=
      fun n hn => Indication.passes_iff_tag_of_decode hd hn
    obtain ⟨before, after, hleaves, happlied, hend⟩ := s.dispatch_cut i
    constructor
    · intro n hn hsession t m
      have hpasses : n.passes = false := by
        rw [Bool.eq_false_iff]
        exact fun h => (htag n hn).mp h hsession
      exact t.passthrough_notMem_dispatch hpasses m
    · refine ⟨before, after, hleaves, happlied, ?_, ?_⟩
      · rcases hend with ⟨hafter, hresult⟩ | ⟨n, rest, e, hafter, hresult, hn⟩
        · have hok := congrArg (Except.mapError ProcessError.dispatch) hresult
          exact .inl ⟨hafter, hok⟩
        · have herror := congrArg (Except.mapError ProcessError.dispatch) hresult
          exact .inr ⟨n, rest, e, hafter, herror, hn⟩
      · rw [happlied.handed]
        apply List.filter_congr
        intro n hn
        have hmem : n ∈ i.leaves := by
          rw [hleaves]
          exact List.mem_append_left after hn
        exact Bool.eq_iff_iff.mpr ((htag n hmem).trans decide_eq_true_iff.symm)

example :
    let outside := "\x7b\"screen\":\x7b\"rows\":[\x7b\"row\":9,\"changes\":[]\x7d]\x7d\x7d"
    let inner := "\x7b\"initialize\":[\x7b\"warp-drive\":null\x7d," ++ outside ++ "]\x7d"
    let text := "\x7b\"initialize\":[\x7b\"bell\":\x7b\x7d\x7d,\x7b\"erase\":\x7b\x7d\x7d," ++
      inner ++ ",\x7b\"bell\":\x7b\x7d\x7d]\x7d"
    (((create 1 1 .green .black).process text).events.filterMap Event.handed?).map Notice.tag =
      ["bell", "warp-drive"] := by
  decide +kernel

end Session

end Display3270
