import Display3270.Proofs.Json.Fields

namespace Display3270

theorem lookup_eq_of_count {κ β : Type} [BEq κ] [LawfulBEq κ] {ms : List (κ × β)} {k : κ} {v : β}
    (h : (ms.map Prod.fst).count k ≤ 1) (hv : (k, v) ∈ ms) : ms.lookup k = some v := by
  induction ms with
  | nil => cases hv
  | cons m ms ih =>
    obtain ⟨l, w⟩ := m
    rw [List.map_cons, List.count_cons] at h
    by_cases hk : l = k
    · subst hk
      have hnone : (ms.map Prod.fst).count l = 0 := by
        simp only [beq_self_eq_true, ↓reduceIte] at h
        omega
      rcases List.mem_cons.mp hv with hv | hv
      · cases hv
        exact List.lookup_cons_self
      · have hmem : l ∈ ms.map Prod.fst := List.mem_map_of_mem hv
        exact absurd hmem (List.count_eq_zero.mp hnone)
    · have hne : (k == l) = false := beq_eq_false_iff_ne.mpr (Ne.symm hk)
      rcases List.mem_cons.mp hv with hv | hv
      · cases hv
        exact absurd rfl hk
      · rw [List.lookup_cons, hne]
        exact ih (by simpa [hk] using h) hv

namespace Draft

structure Sound (keys : List String) (ms : List (Option String × Draft)) : Prop where
  texts : ∀ m ∈ ms, m.1 ≠ none
  once : ∀ k ∈ keys, (ms.map Prod.fst).count (some k) ≤ 1
  others : ∀ m ∈ ms, (∀ k ∈ keys, m.1 ≠ some k) → m.2.skip = .ok ()

variable {keys : List String} {ms ns : List (Option String × Draft)}

theorem sound_nil (keys : List String) : Sound keys [] := ⟨nofun, by simp, nofun⟩

theorem sound_cons {k : String} {d : Draft} :
    Sound keys ((some k, d) :: ms) ↔
      (k ∈ keys → some k ∉ ms.map Prod.fst) ∧ (k ∉ keys → d.skip = .ok ()) ∧ Sound keys ms := by
  have hskip : (∀ j ∈ keys, some k ≠ some j) ↔ k ∉ keys := by
    simp [List.forall_mem_ne]
  constructor
  · rintro ⟨htexts, honce, hothers⟩
    obtain ⟨-, htexts⟩ := List.forall_mem_cons.mp htexts
    obtain ⟨hd, hothers⟩ := List.forall_mem_cons.mp hothers
    refine ⟨?_, fun hk => hd (hskip.mpr hk), htexts, ?_, hothers⟩
    · intro hk
      have hcount := honce k hk
      rw [List.map_cons, List.count_cons_self] at hcount
      exact List.count_eq_zero.mp (by omega)
    · intro j hj
      have hcount := honce j hj
      rw [List.map_cons, List.count_cons] at hcount
      omega
  · rintro ⟨hnot, hd, htexts, honce, hothers⟩
    refine ⟨?_, ?_, ?_⟩
    · exact List.forall_mem_cons.mpr ⟨by simp, htexts⟩
    · intro j hj
      rw [List.map_cons, List.count_cons]
      by_cases hk : k = j
      · subst hk
        rw [List.count_eq_zero.mpr (hnot hj)]
        simp
      · simpa [hk] using honce j hj
    · exact List.forall_mem_cons.mpr ⟨fun hk => hd (hskip.mp hk), hothers⟩

theorem Sound.of_append (h : Sound keys (ms ++ ns)) : Sound keys ms where
  texts m hm := h.texts m (List.mem_append_left ns hm)
  once k hk := by
    have honce := h.once k hk
    rw [List.map_append, List.count_append] at honce
    omega
  others m hm := h.others m (List.mem_append_left ns hm)

theorem Sound.perm (h : Sound keys ms) (hp : ms.Perm ns) : Sound keys ns where
  texts m hm := h.texts m (hp.mem_iff.mpr hm)
  once k hk := by
    rw [← (hp.map Prod.fst).count_eq]
    exact h.once k hk
  others m hm := h.others m (hp.mem_iff.mpr hm)

theorem Sound.replace {k : Option String} {d e : Draft} (h : Sound keys (ms ++ (k, d) :: ns))
    (hskip : d.skip = .ok () → e.skip = .ok ()) : Sound keys (ms ++ (k, e) :: ns) := by
  obtain ⟨htexts, honce, hothers⟩ := h
  simp only [List.forall_mem_append, List.forall_mem_cons] at htexts hothers
  obtain ⟨hms, hd, hns⟩ := hothers
  refine ⟨?_, ?_, ?_⟩
  · simpa only [List.forall_mem_append, List.forall_mem_cons] using htexts
  · simpa using honce
  · simp only [List.forall_mem_append, List.forall_mem_cons]
    exact ⟨hms, fun hk => hskip (hd hk), hns⟩

theorem skipMembers_ok_iff : skipMembers ms = .ok () ↔ ∀ m ∈ ms, m.2.skip = .ok () := by
  induction ms with
  | nil => simp [skipMembers]
  | cons m ms ih => rw [skipMembers, then_ok_iff, ih, List.forall_mem_cons]

theorem skip_perm (hp : ms.Perm ns) {f : Option Fault} (h : (obj ms f).skip = .ok ()) :
    (obj ns f).skip = .ok () := by
  rw [skip, then_ok_iff, skipMembers_ok_iff] at h ⊢
  exact ⟨fun m hm => h.1 m (hp.mem_iff.mpr hm), h.2⟩

theorem Sound.find (h : Sound keys ms) {k : String} (hk : k ∈ keys) {d : Draft} :
    Record.findMember ms k = some d ↔ (some k, d) ∈ ms := by
  constructor
  · intro hfind
    obtain ⟨before, after, hms, -⟩ := List.lookup_eq_some_iff.mp hfind
    simp [hms]
  · exact lookup_eq_of_count (h.once k hk)

theorem Sound.find_before {k : String} {d : Draft} (h : Sound keys (ms ++ [(some k, d)]))
    (hk : k ∈ keys) : Record.findMember ms k = none := by
  have honce := h.once k hk
  rw [List.map_append, List.count_append, List.map_singleton, List.count_singleton_self] at honce
  have hzero : (ms.map Prod.fst).count (some k) = 0 := by omega
  apply Option.eq_none_iff_forall_ne_some.mpr
  intro e he
  have hmem : some k ∈ ms.map Prod.fst := List.mem_map_of_mem ((h.of_append.find hk).mp he)
  exact List.count_eq_zero.mp hzero hmem

theorem Sound.find_perm (h : Sound keys ms) (hp : ms.Perm ns) {k : String} (hk : k ∈ keys) :
    Record.findMember ms k = Record.findMember ns k := by
  apply Option.ext
  intro d
  rw [h.find hk, (h.perm hp).find hk, hp.mem_iff]

def Repeats (keys : List String) (ms : List (Option String × Draft)) : Prop :=
  ∃ k ∈ keys, 2 ≤ (ms.map Prod.fst).count (some k)

theorem Sound.not_repeats (h : Sound keys ms) : ¬Repeats keys ms := by
  rintro ⟨k, hk, htwice⟩
  have honce := h.once k hk
  omega

section Overlay

variable {α : Type} {set : α → String → Draft → Except Cause α}

def overlay (set : α → String → Draft → Except Cause α) (a : α) :
    List (Option String × Draft) → Except Cause α
  | [] => .ok a
  | (none, _) :: _ => .error .illFormed
  | (some k, d) :: ms => do
    let b ← set a k d
    overlay set b ms

theorem overlay_append_ok_iff {a c : α} :
    overlay set a (ms ++ ns) = .ok c ↔
      ∃ b, overlay set a ms = .ok b ∧ overlay set b ns = .ok c := by
  induction ms generalizing a with
  | nil => simp [overlay]
  | cons m ms ih =>
    obtain ⟨_ | k, d⟩ := m
    · simp [overlay]
    · simp only [List.cons_append, overlay, bind_eq_ok_iff, ih]
      constructor
      · rintro ⟨a', ha', b, hb, hc⟩
        exact ⟨b, ⟨a', ha', hb⟩, hc⟩
      · rintro ⟨b, ⟨a', ha', hb⟩, hc⟩
        exact ⟨a', ha', b, hb, hc⟩

theorem overlay_concat_ok_iff {k : String} {d : Draft} {a c : α} :
    overlay set a (ms ++ [(some k, d)]) = .ok c ↔
      ∃ b, overlay set a ms = .ok b ∧ set b k d = .ok c := by
  simp only [overlay_append_ok_iff, overlay, bind_eq_ok_iff, Except.ok.injEq, exists_eq_right]

end Overlay

end Draft

def Slots.among (ms : List (Option String × Draft)) : Slots :=
  ⟨.text, Record.findMember ms, .missingField⟩

def Slots.add (s : Slots) (k : String) (d : Draft) : Slots :=
  { s with find := fun j => (s.find j).or (if j = k then some d else none) }

namespace Record

variable {α β : Type}

theorem among_concat (ms : List (Option String × Draft)) (k : String) (d : Draft) :
    Slots.among (ms ++ [(some k, d)]) = (Slots.among ms).add k d := by
  have hfind : findMember (ms ++ [(some k, d)]) =
      fun j => (findMember ms j).or (if j = k then some d else none) := by
    funext j
    rw [findMember, List.lookup_append, findMember]
    by_cases hj : j = k
    · simp [hj]
    · have hne : (some j == some k) = false := by simpa using hj
      simp [List.lookup_cons, hne, hj]
  rw [Slots.among, hfind, Slots.add, Slots.among]

section Fields

variable {name k : String} {q : Reader α} {a : α} {s : Slots} {d : Draft}

theorem build_missing (h : s.find name = none) : (defaulted name q a).build s = .ok a := by
  rw [defaulted, build_field, h]

theorem build_add_self (h : s.find name = none) :
    (defaulted name q a).build (s.add name d) = q s.origin d := by
  simp [defaulted, build_field, Slots.add, h]

theorem build_add_of_ne (h : name ≠ k) :
    (defaulted name q a).build (s.add k d) = (defaulted name q a).build s := by
  simp [defaulted, build_field, Slots.add, h]

theorem build_among {keys : List String} {ms : List (Option String × Draft)}
    (h : Draft.Sound keys ms) (hname : name ∈ keys) (hd : (some name, d) ∈ ms) :
    (defaulted name q a).build (.among ms) = q .text d := by
  have hfind : (Slots.among ms).find name = some d := (h.find hname).mpr hd
  simp only [defaulted, build_field, hfind]
  rfl

end Fields

structure Local (r : Record α) : Prop where
  checked : r.Checked
  build (s t : Slots) (ho : s.origin = t.origin)
    (h : ∀ n ∈ r.fields.map Field.name, s.find n = t.find n) : r.build s = r.build t

theorem local_defaulted (name : String) (q : Reader α) (a : α) : (defaulted name q a).Local := by
  refine ⟨checked_field name q _, ?_⟩
  intro s t ho h
  have hname : s.find name = t.find name := h name (List.mem_singleton_self name)
  simp only [defaulted, build_field, hname, ho]

theorem Local.map {r : Record α} (h : r.Local) (f : α → β) : (f <$> r).Local := by
  refine ⟨h.checked.map f, ?_⟩
  intro s t ho hst
  rw [build_map, build_map, h.build s t ho hst]

theorem Local.seq {f : Record (α → β)} {r : Record α} (hf : f.Local) (hr : r.Local) :
    (f <*> r).Local := by
  refine ⟨hf.checked.seq hr.checked, ?_⟩
  intro s t ho hst
  have hfields : (f <*> r).fields.map Field.name =
      f.fields.map Field.name ++ r.fields.map Field.name := List.map_append
  rw [hfields, List.forall_mem_append] at hst
  rw [build_seq, build_seq, hf.build s t ho hst.1, hr.build s t ho hst.2]

section Members

variable {r : Record α} {o : Origin} {ms ns : List (Option String × Draft)} {seen : List String}

theorem checkMembers_ok_iff : r.checkMembers o seen ms = .ok () ↔
    Draft.Sound (r.fields.map Field.name) ms ∧
      (∀ k ∈ seen, k ∈ r.fields.map Field.name → some k ∉ ms.map Prod.fst) ∧
      ∀ k d, (some k, d) ∈ ms → ∀ f ∈ r.field? k, f.check o d = .ok () := by
  induction ms generalizing seen with
  | nil => simp [checkMembers, Draft.sound_nil]
  | cons m ms ih =>
    obtain ⟨_ | k, d⟩ := m
    · have hnot : ¬Draft.Sound (r.fields.map Field.name) ((none, d) :: ms) :=
        fun h => h.texts _ List.mem_cons_self rfl
      simp [checkMembers, hnot]
    · rw [checkMembers_cons_ok_iff, Draft.sound_cons]
      cases hf : r.field? k with
      | none =>
        have hk := field?_eq_none_iff.mp hf
        simp only [ih]
        grind
      | some f =>
        have hk : k ∈ r.fields.map Field.name := by
          by_contra hk
          rw [field?_eq_none_iff.mpr hk] at hf
          cases hf
        simp only [ih]
        grind

theorem close_ok_iff {f : Option Fault} : Draft.close f = .ok () ↔ f = none := by
  cases f <;> simp [Draft.close]

theorem readObject_ok_iff (h : r.Checked) {f : Option Fault} {a : α} :
    r.readObject .text ms f = .ok a ↔
      f = none ∧ Draft.Sound (r.fields.map Field.name) ms ∧ r.build (.among ms) = .ok a := by
  rw [readObject, then_ok_iff, then_ok_iff, close_ok_iff, checkMembers_ok_iff]
  constructor
  · rintro ⟨⟨hsound, -, -⟩, hf, hbuild⟩
    exact ⟨hf, hsound, hbuild⟩
  · rintro ⟨hf, hsound, hbuild⟩
    refine ⟨⟨hsound, List.forall_mem_nil _, ?_⟩, hf, hbuild⟩
    intro k d hd x hx
    have hname : x.name = k := by simpa using List.find?_some hx
    have hmem := List.mem_of_find?_eq_some hx
    have hk : x.name ∈ r.fields.map Field.name := List.mem_map_of_mem hmem
    apply h _ a hbuild x hmem d
    exact (hsound.find hk).mpr (hname ▸ hd)

end Members

def Sets (r : Record α) (set : α → String → Draft → Except Cause α) (k : String) (d : Draft) :
    Prop :=
  ∀ (s : Slots) (b : α), s.origin = .text → (k ∈ r.fields.map Field.name → s.find k = none) →
    (r.build (s.add k d) = .ok b ↔ ∃ a, r.build s = .ok a ∧ set a k d = .ok b)

section Sets

variable {r : Record α} {set : α → String → Draft → Except Cause α} {initial : α}
  {ms ns : List (Option String × Draft)}

theorem build_eq_overlay (hinitial : r.build (.among []) = .ok initial)
    (hsets : ∀ k d, (some k, d) ∈ ms → r.Sets set k d)
    (h : Draft.Sound (r.fields.map Field.name) ms) {b : α} :
    r.build (.among ms) = .ok b ↔ Draft.overlay set initial ms = .ok b := by
  -- a member is set when those before it make a record
  induction ms using List.reverseRecOn generalizing b with
  | nil => rw [hinitial, Draft.overlay]
  | append_singleton ms m ih =>
    obtain ⟨_ | k, d⟩ := m
    · exact absurd rfl (h.texts (none, d) (by simp))
    · have hbefore : Draft.Sound (r.fields.map Field.name) ms := h.of_append
      rw [among_concat, Draft.overlay_concat_ok_iff,
        hsets k d (by simp) _ b rfl h.find_before]
      simp only [ih (fun k d hm => hsets k d (List.mem_append_left _ hm)) hbefore]

theorem overlay_perm (hr : r.Local) (hinitial : r.build (.among []) = .ok initial)
    (hsets : ∀ k d, (some k, d) ∈ ms → r.Sets set k d)
    (h : Draft.Sound (r.fields.map Field.name) ms) (hp : ms.Perm ns) {b : α} :
    Draft.overlay set initial ms = .ok b ↔ Draft.overlay set initial ns = .ok b := by
  have hbuild : r.build (.among ms) = r.build (.among ns) :=
    hr.build _ _ rfl fun _ hn => h.find_perm hp hn
  rw [← build_eq_overlay hinitial hsets h, hbuild]
  apply build_eq_overlay hinitial ?_ (h.perm hp)
  exact fun k d hd => hsets k d (hp.mem_iff.mpr hd)

theorem readObject_eq_overlay (hr : r.Local) (hinitial : r.build (.among []) = .ok initial)
    (hsets : ∀ k d, (some k, d) ∈ ms → r.Sets set k d) {f : Option Fault} {b : α} :
    r.readObject .text ms f = .ok b ↔
      f = none ∧ Draft.Sound (r.fields.map Field.name) ms ∧
        Draft.overlay set initial ms = .ok b := by
  rw [readObject_ok_iff hr.checked]
  constructor
  · rintro ⟨hf, h, hbuild⟩
    exact ⟨hf, h, (build_eq_overlay hinitial hsets h).mp hbuild⟩
  · rintro ⟨hf, h, hoverlay⟩
    exact ⟨hf, h, (build_eq_overlay hinitial hsets h).mpr hoverlay⟩

end Sets

end Record

end Display3270
