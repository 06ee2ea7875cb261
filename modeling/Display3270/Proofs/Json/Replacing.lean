import Mathlib.Logic.Function.Basic
import Display3270.Proofs.Json.Shapes

namespace Display3270

inductive Replaces (names : List String) (name : String) (y : Json) : Json → Json → Prop
  | member (before after : List (String × Json)) (x : Json) :
      Replaces names name y (.obj (before ++ (name, x) :: after))
        (.obj (before ++ (name, y) :: after))
  | place (before after : List Json) (x : Json) (h : names[before.length]? = some name) :
      Replaces names name y (.arr (before ++ x :: after)) (.arr (before ++ y :: after))

def Reader.Sets {α : Type} (r : Reader α) (names : List String) (name : String) (y : Json)
    (set : α → α) : Prop :=
  ∀ o j j' a, Replaces names name y j j' → r o (Draft.ofJson j) = .ok a →
    r o (Draft.ofJson j') = .ok (set a)

section Entries

variable {β : Type} {name : String} {x : β}

theorem lookup_replace_of_ne {k : String} (hk : k ≠ name) (y : β)
    (before after : List (String × β)) :
    (before ++ (name, y) :: after).lookup k = (before ++ (name, x) :: after).lookup k := by
  simp only [List.lookup_append, lookup_cons_ite, if_neg hk]

theorem lookup_replace {before : List (String × β)} (h : name ∉ before.map Prod.fst) (y : β)
    (after : List (String × β)) :
    (fun k => (before ++ (name, y) :: after).lookup k) =
      Function.update (fun k => (before ++ (name, x) :: after).lookup k) name (some y) := by
  funext k
  by_cases hk : k = name
  · subst hk
    have hnone : before.lookup k = none := by
      apply List.lookup_eq_none_iff.mpr
      intro p hp
      have hne : k ≠ p.1 := fun he => h (he ▸ List.mem_map_of_mem hp)
      simpa using hne
    rw [Function.update_self, List.lookup_append, hnone, lookup_cons_ite, if_pos rfl]
    rfl
  · rw [Function.update_of_ne hk, lookup_replace_of_ne hk]

theorem lookup_zip_replace {names : List String} (hnodup : names.Nodup) (y : β)
    (before after : List β) (h : names[before.length]? = some name) :
    (fun k => (names.zip (before ++ y :: after)).lookup k) =
      Function.update (fun k => (names.zip (before ++ x :: after)).lookup k) name (some y) := by
  -- the names before this one are others, so that its entry is a member like any other
  obtain ⟨hlength, hget⟩ := List.getElem?_eq_some_iff.mp h
  have hsplit : names = names.take before.length ++ name :: names.drop (before.length + 1) := by
    rw [← hget, List.getElem_cons_drop, List.take_append_drop]
  have hzip : ∀ z : β, names.zip (before ++ z :: after) =
      (names.take before.length).zip before ++
        (name, z) :: (names.drop (before.length + 1)).zip after := by
    intro z
    conv_lhs => rw [hsplit]
    rw [List.zip_append (by simp [Nat.le_of_lt hlength]), List.zip_cons_cons]
  have hnot : name ∉ ((names.take before.length).zip before).map Prod.fst := by
    intro hmem
    rw [List.map_fst_zip (List.length_take_le _ _)] at hmem
    rw [hsplit] at hnodup
    exact List.disjoint_of_nodup_append hnodup hmem List.mem_cons_self
  simp only [hzip]
  exact lookup_replace hnot y _

end Entries

namespace Record

variable {α : Type} {r : Record α} {o : Origin} {name : String} {f : Field} {x y : Json}

theorem checkMembers_cons_ok {k : String} {ms : List (String × Json)} {seen : List String} :
    r.checkMembers o seen (Draft.ofMembers ((k, x) :: ms)) = .ok () ↔
      match r.field? k with
      | none => r.checkMembers o seen (Draft.ofMembers ms) = .ok ()
      | some f => k ∉ seen ∧ f.check o (Draft.ofJson x) = .ok () ∧
        r.checkMembers o (k :: seen) (Draft.ofMembers ms) = .ok () := by
  rw [Draft.ofMembers, checkMembers_cons_ok_iff]
  cases r.field? k with
  | none => simp [Draft.skip_ofJson]
  | some f => rfl

theorem checkMembers_replace (hf : r.field? name = some f)
    (hy : f.check o (Draft.ofJson y) = .ok ()) {before after : List (String × Json)}
    {seen : List String}
    (h : r.checkMembers o seen (Draft.ofMembers (before ++ (name, x) :: after)) = .ok ()) :
    name ∉ seen ∧ name ∉ before.map Prod.fst ∧
      r.checkMembers o seen (Draft.ofMembers (before ++ (name, y) :: after)) = .ok () := by
  induction before generalizing seen with
  | nil =>
    simp only [List.nil_append, checkMembers_cons_ok, hf] at h ⊢
    obtain ⟨hseen, -, hafter⟩ := h
    exact ⟨hseen, List.not_mem_nil, hseen, hy, hafter⟩
  | cons m ms ih =>
    obtain ⟨k, z⟩ := m
    simp only [List.cons_append, checkMembers_cons_ok] at h ⊢
    cases hk : r.field? k with
    | none =>
      simp only [hk] at h ⊢
      obtain ⟨hseen, hms, hrest⟩ := ih h
      have hne : name ≠ k := by
        rintro rfl
        rw [hf] at hk
        cases hk
      exact ⟨hseen, by simp [hne, hms], hrest⟩
    | some g =>
      simp only [hk] at h ⊢
      obtain ⟨hkseen, hz, hrest⟩ := h
      obtain ⟨hseen, hms, hrest⟩ := ih hrest
      rw [List.mem_cons, not_or] at hseen
      obtain ⟨hne, hseen⟩ := hseen
      exact ⟨hseen, by simp [hne, hms], hkseen, hz, hrest⟩

theorem checkItems_cons_ok {fs : List Field} {xs : List Json} :
    checkItems o none (f :: fs) (Draft.ofItems (x :: xs)) = .ok () ↔
      f.check o (Draft.ofJson x) = .ok () ∧ checkItems o none fs (Draft.ofItems xs) = .ok () := by
  simp only [Draft.ofItems, checkItems]
  cases f.check o (Draft.ofJson x) <;> simp [bind, Except.bind]

theorem checkItems_replace {fs : List Field} {before after : List Json}
    (hf : fs[before.length]? = some f) (hy : f.check o (Draft.ofJson y) = .ok ())
    (h : checkItems o none fs (Draft.ofItems (before ++ x :: after)) = .ok ()) :
    checkItems o none fs (Draft.ofItems (before ++ y :: after)) = .ok () := by
  induction before generalizing fs with
  | nil =>
    cases fs with
    | nil => cases hf
    | cons g fs =>
      obtain rfl : g = f := Option.some.inj hf
      obtain ⟨-, hafter⟩ := checkItems_cons_ok.mp h
      exact checkItems_cons_ok.mpr ⟨hy, hafter⟩
  | cons z zs ih =>
    cases fs with
    | nil => cases hf
    | cons g fs =>
      obtain ⟨hz, hrest⟩ := checkItems_cons_ok.mp h
      exact checkItems_cons_ok.mpr ⟨hz, ih hf hrest⟩

section Update

variable (o : Origin) (absent : String → Cause) (find : String → Option Json) (y : Json)

theorem build_field_update (name : String) (r : Reader α) (missing : Slots → Except Cause α) :
    (field name r missing).build (.of o absent (Function.update find name (some y))) =
      r o (Draft.ofJson y) := by
  simp [build_field, Slots.of]

theorem build_update_of_notMem {name : String} [Flat r] (h : name ∉ r.fields.map Field.name) :
    r.build (.of o absent (Function.update find name (some y))) =
      r.build (.of o absent find) := by
  apply Flat.build_congr
  intro n hn
  exact Function.update_of_ne (ne_of_mem_of_not_mem hn h) _ _

end Update

def Updates (r : Record α) (name : String) (y : Json) (set : α → α) : Prop :=
  ∀ o absent (find : String → Option Json) a, r.build (.of o absent find) = .ok a →
    r.build (.of o absent (Function.update find name (some y))) = .ok (set a)

theorem updates_last {β : Type} {b : α} {g : Record (α → β)} [Flat g] {r : Reader α}
    {missing : Slots → Except Cause α} {set : β → β} (hname : name ∉ g.fields.map Field.name)
    (hb : ∀ o, r o (Draft.ofJson y) = .ok b)
    (hset : ∀ s h a, g.build s = .ok h → set (h a) = h b) :
    (g <*> field name r missing).Updates name y set := by
  intro o absent find c hc
  obtain ⟨h, hh, a, -, rfl⟩ := build_seq_ok.mp hc
  refine build_seq_ok.mpr ⟨h, ?_, b, ?_, (hset _ h a hh).symm⟩
  · rw [build_update_of_notMem o absent find y hname]
    exact hh
  · rw [build_field_update]
    exact hb o

variable {set : α → α}

theorem Checked.check_update (hchecked : r.Checked) {absent : String → Cause}
    {find : String → Option Json} {a : α} (hf : f ∈ r.fields)
    (h : r.build (.of o absent (Function.update find f.name (some y))) = .ok a) :
    f.check o (Draft.ofJson y) = .ok () := by
  apply hchecked _ a h f hf
  simp [Slots.of]

theorem Updates.readObject (h : r.Updates name y set) (hchecked : r.Checked)
    (hname : name ∈ r.fields.map Field.name) {before after : List (String × Json)} {a : α}
    (hread : r.readObject o (Draft.ofMembers (before ++ (name, x) :: after)) none = .ok a) :
    r.readObject o (Draft.ofMembers (before ++ (name, y) :: after)) none = .ok (set a) := by
  rw [readObject_ofMembers, bind_eq_ok_iff] at hread ⊢
  obtain ⟨⟨⟩, hmembers, hbuild⟩ := hread
  obtain ⟨f, hf⟩ : ∃ f, r.field? name = some f := by
    obtain ⟨f, hf, rfl⟩ := List.mem_map.mp hname
    exact Option.isSome_iff_exists.mp (List.find?_isSome.mpr ⟨f, hf, by simp⟩)
  have hfname : f.name = name := by simpa using List.find?_some hf
  have hset := h o .missingField _ a hbuild
  have hy : f.check o (Draft.ofJson y) = .ok () := by
    rw [← hfname] at hset
    exact hchecked.check_update (List.mem_of_find?_eq_some hf) hset
  obtain ⟨-, hbefore, hmembers⟩ := checkMembers_replace hf hy hmembers
  refine ⟨(), hmembers, ?_⟩
  rw [lookup_replace hbefore]
  exact hset

theorem Updates.readArray (h : r.Updates name y set) (hchecked : r.Checked)
    (hnodup : (r.fields.map Field.name).Nodup) {before after : List Json} {a : α}
    (hname : (r.fields.map Field.name)[before.length]? = some name)
    (hread : r.readArray o (Draft.ofItems (before ++ x :: after)) none = .ok a) :
    r.readArray o (Draft.ofItems (before ++ y :: after)) none = .ok (set a) := by
  rw [readArray_ofItems, bind_eq_ok_iff] at hread ⊢
  obtain ⟨⟨⟩, hitems, hbuild⟩ := hread
  have hset := h o (fun _ => .wrongLength) _ a hbuild
  obtain ⟨f, hf, hfname⟩ : ∃ f, r.fields[before.length]? = some f ∧ f.name = name := by
    rw [List.getElem?_map] at hname
    exact Option.map_eq_some_iff.mp hname
  have hy : f.check o (Draft.ofJson y) = .ok () := by
    rw [← hfname] at hset
    exact hchecked.check_update (List.mem_of_getElem? hf) hset
  refine ⟨(), checkItems_replace hf hy hitems, ?_⟩
  rw [lookup_zip_replace hnodup y before after hname]
  exact hset

theorem Updates.reader (h : r.Updates name y set) (hchecked : r.Checked)
    (hnodup : (r.fields.map Field.name).Nodup) (hname : name ∈ r.fields.map Field.name) :
    r.reader.Sets (r.fields.map Field.name) name y set := by
  intro o j j' a hj hread
  cases hj with
  | member before after x => exact h.readObject hchecked hname hread
  | place before after x hplace => exact h.readArray hchecked hnodup hplace hread

end Record

end Display3270
