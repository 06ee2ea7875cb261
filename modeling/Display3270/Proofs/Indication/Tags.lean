import Display3270.Proofs.Indication.RoundTrip

namespace Display3270

open Record Reader

namespace Json

def OnlyKey (t : String) : Json → Prop
  | .obj ms => ms ≠ [] ∧ ∀ m ∈ ms, m.1 = t
  | _ => False

theorem Canonical.onlyKey_iff {j : Json} (h : j.Canonical) (t : String) :
    j.OnlyKey t ↔ ∃ body, j = .obj [(t, body)] := by
  constructor
  · intro hkey
    cases h with
    | @obj ms _ keys =>
      obtain ⟨hne, hall⟩ := hkey
      cases ms with
      | nil => exact absurd rfl hne
      | cons m ms =>
        obtain ⟨hm, hms⟩ := List.forall_mem_cons.mp hall
        obtain ⟨hlt, -⟩ := List.pairwise_cons.mp keys
        -- the keys rise, so that a second member would stand under another key
        have hnil : ms = [] := by
          apply List.eq_nil_iff_forall_not_mem.mpr
          intro n hn
          exact String.ne_of_lt (hlt n hn) (hm.trans (hms n hn).symm)
        exact ⟨m.2, by rw [hnil, ← hm]⟩
    | _ => exact absurd hkey id
  · rintro ⟨body, rfl⟩
    exact ⟨by simp, by simp⟩

end Json

namespace Notice

def Names (tag : String) (r : Reader Notice) : Prop :=
  ∀ o d n, r o d = .ok n → n.tag = tag ∧ n.body?.isSome

variable {α : Type} {tag : String}

theorem names_map {r : Reader α} {f : α → Notice}
    (hf : ∀ a, (f a).tag = tag ∧ (f a).body?.isSome) : Names tag (r.map f) := by
  intro o d n h
  obtain ⟨a, -, rfl⟩ := map_eq_ok h
  exact hf a

theorem names_object {r : Record α} {f : α → Notice}
    (hf : ∀ a, (f a).tag = tag ∧ (f a).body?.isSome) : Names tag (f <$> r).objectReader := by
  rw [objectReader_map]
  exact names_map hf

theorem names_readers : ∀ entry ∈ readers, Names entry.1 entry.2 := by
  have hbell : (pure .bell : Record Notice).objectReader =
      ((fun _ => bell) <$> (pure () : Record Unit)).objectReader := rfl
  simp only [readers, List.forall_mem_cons, hbell]
  and_intros
  all_goals
    first
    | exact names_map fun _ => ⟨rfl, rfl⟩
    | exact names_object fun _ => ⟨rfl, rfl⟩
    | exact List.forall_mem_nil _

theorem mem_knownTags_iff (t : String) : t ∈ knownTags ↔ t = batchTag ∨ ∃ r, (t, r) ∈ readers := by
  have hperm : knownTags.Perm (batchTag :: readers.map Prod.fst) := by
    simp only [readers, List.map_cons, List.map_nil]
    decide
  rw [hperm.mem_iff, List.mem_cons, List.mem_map]
  simp

end Notice

namespace Indication

theorem json?_eq_some {i : Indication} {x : Json} (h : i.json? = some x) :
    ∃ body, x = .obj [(i.tag, body)] := by
  cases i with
  | notice n =>
    obtain ⟨body, -, rfl⟩ := Option.map_eq_some_iff.mp h
    exact ⟨body, rfl⟩
  | batch members =>
    obtain ⟨items, -, rfl⟩ := Option.map_eq_some_iff.mp h
    exact ⟨.arr items, rfl⟩

theorem readNotice_known {t : String} (ht : t ∈ knownTags) (hbatch : t ≠ batchTag) (body : Json) :
    (∃ cause, readNotice t body = .error (.malformed t cause)) ∨
      ∃ n, readNotice t body = .ok (.notice n) ∧ n.tag = t ∧ n.body?.isSome := by
  obtain ⟨r, hr⟩ := ((Notice.mem_knownTags_iff t).mp ht).resolve_left hbatch
  unfold readNotice
  rw [if_pos ht]
  cases hlookup : Notice.readers.lookup t with
  | none =>
    have hne := List.lookup_eq_none_iff.mp hlookup (t, r) hr
    simp at hne
  | some r =>
    obtain ⟨before, after, hreaders, -⟩ := List.lookup_eq_some_iff.mp hlookup
    have hnames := Notice.names_readers (t, r) (by simp [hreaders])
    cases hn : r .value (Draft.ofJson body) with
    | error cause => exact .inl ⟨cause, by simp only [hn]⟩
    | ok n => exact .inr ⟨n, by simp only [hn], hnames .value _ n hn⟩

theorem ofJson_read {tag : String} {r : Reader Notice}
    (hr : Notice.readers.lookup tag = some r) (body : Json) :
    ofJson (.obj [(tag, body)]) =
      match r .value (Draft.ofJson body) with
      | .ok n => .ok (.notice n)
      | .error cause => .error (.malformed tag cause) := by
  obtain ⟨before, after, hreaders, -⟩ := List.lookup_eq_some_iff.mp hr
  have hmem : (tag, r) ∈ Notice.readers := by simp [hreaders]
  have hknown : tag ∈ knownTags := (Notice.mem_knownTags_iff tag).mpr (.inr ⟨r, hmem⟩)
  have hbatch : tag ≠ batchTag := by
    rintro rfl
    have hnone : Notice.readers.lookup batchTag = none := rfl
    rw [hnone] at hr
    cases hr
  cases hn : r .value (Draft.ofJson body) <;>
    simp only [ofJson_single hbatch, readNotice, if_pos hknown, hr, hn]

theorem ofJson_read_ok {tag : String} {r : Reader Notice}
    (hr : Notice.readers.lookup tag = some r) {body : Json} {i : Indication}
    (h : ofJson (.obj [(tag, body)]) = .ok i) :
    ∃ n, r .value (Draft.ofJson body) = .ok n ∧ i = .notice n := by
  rw [ofJson_read hr] at h
  cases hn : r .value (Draft.ofJson body) with
  | error cause =>
    rw [hn] at h
    cases h
  | ok n =>
    rw [hn] at h
    cases h
    exact ⟨n, rfl, rfl⟩

theorem ofJson_known {t : String} (ht : t ∈ knownTags) (body : Json) :
    (∃ cause, ofJson (.obj [(t, body)]) = .error (.malformed t cause)) ∨
      ∃ i, ofJson (.obj [(t, body)]) = .ok i ∧ (∀ tag b, i ≠ .notice (.other tag b)) ∧
        i.tag = t := by
  by_cases hbatch : t = batchTag
  · subst hbatch
    cases body with
    | arr items =>
      simp only [ofJson, ↓reduceIte]
      cases ofItems items with
      | error e => exact .inl ⟨_, rfl⟩
      | ok members => exact .inr ⟨_, rfl, by simp, rfl⟩
    | _ => exact .inl ⟨_, rfl⟩
  · rw [ofJson_single hbatch]
    rcases readNotice_known ht hbatch body with hmalformed | ⟨n, hn, htag, hbody⟩
    · exact .inl hmalformed
    · refine .inr ⟨_, hn, ?_, htag⟩
      rintro tag b hother
      cases hother
      cases hbody

theorem ofJson_unknown {t : String} (ht : t ∉ knownTags) (body : Json) :
    ofJson (.obj [(t, body)]) = .ok (.notice (.other t body)) := by
  have hbatch : t ≠ batchTag := by
    rintro rfl
    exact ht ((Notice.mem_knownTags_iff batchTag).mpr (.inl rfl))
  rw [ofJson_single hbatch, readNotice_eq_ok_iff]
  exact .inl ⟨ht, rfl⟩

theorem ofJson_untagged_iff (j : Json) :
    ofJson j = .error .untagged ↔ ∀ t body, j ≠ .obj [(t, body)] := by
  constructor
  · rintro h t body rfl
    by_cases ht : t ∈ knownTags
    · rcases ofJson_known ht body with ⟨cause, hc⟩ | ⟨i, hi, -⟩
      · cases h.symm.trans hc
      · cases h.symm.trans hi
    · cases h.symm.trans (ofJson_unknown ht body)
  · intro h
    unfold ofJson
    split
    · exact absurd rfl (h _ _)
    · exact absurd rfl (h _ _)
    · rfl

theorem ofJson_ne_notJson (j : Json) (cause : Cause) : ofJson j ≠ .error (.notJson cause) := by
  intro h
  by_cases hj : ∃ t body, j = .obj [(t, body)]
  · obtain ⟨t, body, rfl⟩ := hj
    by_cases ht : t ∈ knownTags
    · rcases ofJson_known ht body with ⟨cause', hc⟩ | ⟨i, hi, -⟩
      · cases h.symm.trans hc
      · cases h.symm.trans hi
    · cases h.symm.trans (ofJson_unknown ht body)
  · have huntagged := (ofJson_untagged_iff j).mpr fun t body he => hj ⟨t, body, he⟩
    cases h.symm.trans huntagged

/-- A text is no value, is not tagged, has a tag that is not known and is kept as it is, or has a
known tag. Then it is malformed under that tag or is read as an indication of that tag, which is
written under it again. The tags that are known are those that have a reader. -/
theorem decode_classifies (text : String) :
    (∀ cause, decode text = .error (.notJson cause) ↔ Json.parse text = .error cause) ∧
      (decode text = .error .untagged ↔ ∃ j, Json.parse text = .ok j ∧ ∀ t, ¬j.OnlyKey t) ∧
      (∀ j t, Json.parse text = .ok j → j.OnlyKey t → ∃ body, j = .obj [(t, body)] ∧
        (t ∉ knownTags → decode text = .ok (.notice (.other t body))) ∧
        (t ∈ knownTags →
          (∃ cause, decode text = .error (.malformed t cause)) ∨
          ∃ i, decode text = .ok i ∧ (∀ tag b, i ≠ .notice (.other tag b)) ∧ i.tag = t ∧
            ∀ x, i.json? = some x → ∃ b, x = .obj [(t, b)])) ∧
      ∀ t, t ∈ knownTags ↔ t = batchTag ∨ ∃ r, (t, r) ∈ Notice.readers := by
  cases hparse : Json.parse text with
  | error e =>
    have hdecode : decode text = .error (.notJson e) := by simp only [decode, hparse]
    refine ⟨?_, ?_, ?_, Notice.mem_knownTags_iff⟩
    · intro cause
      simp [hdecode]
    · simp [hdecode]
    · intro j t hj
      cases hj
  | ok j =>
    have hdecode : decode text = ofJson j := by simp only [decode, hparse]
    have honly := (Json.canonical_of_parse hparse).1.onlyKey_iff
    refine ⟨?_, ?_, ?_, Notice.mem_knownTags_iff⟩
    · intro cause
      rw [hdecode]
      simp [ofJson_ne_notJson]
    · rw [hdecode, ofJson_untagged_iff]
      simp [honly]
    · intro j' t hj hkey
      cases hj
      obtain ⟨body, rfl⟩ := (honly t).mp hkey
      refine ⟨body, rfl, ?_, ?_⟩
      · intro ht
        rw [hdecode, ofJson_unknown ht]
      · intro ht
        rw [hdecode]
        rcases ofJson_known ht body with hmalformed | ⟨i, hi, hother, htag⟩
        · exact .inl hmalformed
        · refine .inr ⟨i, hi, hother, htag, ?_⟩
          intro x hx
          rw [← htag]
          exact json?_eq_some hx

theorem decode_classifies_repeated :
    let text := "\x7b\"bell\":1,\"bell\":\x7b\"x\":[]\x7d\x7d"
    let j : Json := .obj [("bell", .obj [("x", .arr [])])]
    Json.parse text = .ok j ∧ j.OnlyKey "bell" ∧ "bell" ∈ knownTags ∧
      ((∃ cause, decode text = .error (.malformed "bell" cause)) ∨
        ∃ i, decode text = .ok i ∧ (∀ tag b, i ≠ .notice (.other tag b)) ∧ i.tag = "bell" ∧
          ∀ x, i.json? = some x → ∃ b, x = .obj [("bell", b)]) := by
  intro text j
  have hparse : Json.parse text = .ok j := eq_ok_of_toOption (by decide +kernel)
  have hkey : j.OnlyKey "bell" := ⟨by simp, by simp⟩
  have hknown : "bell" ∈ knownTags := by decide
  obtain ⟨body, -, -, hread⟩ := (decode_classifies text).2.2.1 j "bell" hparse hkey
  exact ⟨hparse, hkey, hknown, hread hknown⟩

end Indication

end Display3270
