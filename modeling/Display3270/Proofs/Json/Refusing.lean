import Display3270.Proofs.Json.Replacing

namespace Display3270

inductive Swaps (targets : List String) (z : Json) : Shape → Json → Json → Prop
  | plain (x : Json) : Swaps targets z .plain x z
  | member {fields : List (String × Shape)} {name : String} {s : Shape} {x y : Json}
      (before after : List (String × Json)) (hs : (name, s) ∈ fields)
      (hname : s = .plain → name ∈ targets) (h : Swaps targets z s x y) :
      Swaps targets z (.record fields) (.obj (before ++ (name, x) :: after))
        (.obj (before ++ (name, y) :: after))
  | place {fields : List (String × Shape)} {name : String} {s : Shape} {x y : Json}
      (before after : List Json) (hs : fields[before.length]? = some (name, s))
      (hname : s = .plain → name ∈ targets) (h : Swaps targets z s x y) :
      Swaps targets z (.record fields) (.arr (before ++ x :: after)) (.arr (before ++ y :: after))
  | flat {fieldNames : List (String × Json) → List String} {name : String}
      (before after : List (String × Json)) (x : Json) (hname : name ∈ targets) :
      Swaps targets z (.flat fieldNames) (.obj (before ++ (name, x) :: after))
        (.obj (before ++ (name, z) :: after))
  | item {s : Shape} {x y : Json} (before after : List Json) (h : Swaps targets z s x y) :
      Swaps targets z (.list s) (.arr (before ++ x :: after)) (.arr (before ++ y :: after))

section Refuses

variable {α β : Type} {targets : List String} {z : Json} {cause : Cause}

namespace Reader

def Refuses (r : Reader α) (targets : List String) (z : Json) (cause : Cause) (s : Shape) : Prop :=
  ∀ o x y a, Swaps targets z s x y → r o (Draft.ofJson x) = .ok a →
    r o (Draft.ofJson y) = .error cause

theorem refuses_of_disjoint {r : Reader α} {others : List String}
    (h : ∀ name ∈ others, name ∉ targets) : r.Refuses targets z cause (.of others) := by
  have hnone : ∀ {name s},
      (name, s) ∈ Shape.plainFields others → ¬(s = .plain → name ∈ targets) := by
    intro name s hs hname
    obtain ⟨n, hn, he⟩ := List.mem_map.mp hs
    cases he
    exact h name hn (hname rfl)
  intro o x y a hxy _
  cases hxy with
  | member before after hs hname => exact absurd hname (hnone hs)
  | place before after hs hname => exact absurd hname (hnone (List.mem_of_getElem? hs))

theorem Refuses.map {r : Reader α} {s : Shape} (h : r.Refuses targets z cause s) (f : α → β) :
    (r.map f).Refuses targets z cause s := by
  intro o x y b hxy hb
  rw [Reader.map] at hb ⊢
  cases ha : r o (Draft.ofJson x) with
  | error e =>
    rw [ha] at hb
    cases hb
  | ok a =>
    rw [h o x y a hxy ha]
    rfl

theorem items_refuse {r : Reader α} {o : Origin} {x y : Json} {before after : List Json}
    (h : ∀ a, r o (Draft.ofJson x) = .ok a → r o (Draft.ofJson y) = .error cause) {as : List α}
    (hread : items r o (Draft.ofItems (before ++ x :: after)) = .ok as) :
    items r o (Draft.ofItems (before ++ y :: after)) = .error cause := by
  induction before generalizing as with
  | nil =>
    obtain ⟨a, ha, -⟩ := bind_eq_ok_iff.mp hread
    simp only [List.nil_append, Draft.ofItems, items, h a ha]
    rfl
  | cons w ws ih =>
    obtain ⟨a, ha, hrest⟩ := bind_eq_ok_iff.mp hread
    obtain ⟨bs, hbs, -⟩ := bind_eq_ok_iff.mp hrest
    simp only [List.cons_append, Draft.ofItems, items, ha, ih hbs]
    rfl

theorem Refuses.list {r : Reader α} {s : Shape} (h : r.Refuses targets z cause s) :
    r.list.Refuses targets z cause (.list s) := by
  intro o x y as hxy has
  cases hxy with
  | @item _ x y before after hxy =>
    obtain ⟨bs, hbs, -⟩ := bind_eq_ok_iff.mp has
    simp only [Draft.ofJson, Reader.list, items_refuse (fun a ha => h o x y a hxy ha) hbs]
    rfl

end Reader

namespace Record

open Reader

structure Guards (r : Record α) (targets : List String) (z : Json) (cause : Cause)
    (fields : List (String × Shape)) : Prop where
  names : r.fields.map Field.name = fields.map Prod.fst
  checks : ∀ f ∈ r.fields, ∃ s, (f.name, s) ∈ fields ∧ ((s = .plain → f.name ∈ targets) →
    ∀ o x y, Swaps targets z s x y → f.check o (Draft.ofJson x) = .ok () →
      f.check o (Draft.ofJson y) = .error cause)

variable {fields more : List (String × Shape)}

theorem guards_field (name : String) {r : Reader α} {s : Shape} {absent : Slots → Except Cause α}
    (h : (s = .plain → name ∈ targets) → r.Refuses targets z cause s) :
    (field name r absent).Guards targets z cause [(name, s)] := by
  refine ⟨rfl, ?_⟩
  intro f hf
  obtain rfl := List.mem_singleton.mp hf
  refine ⟨s, List.mem_singleton_self _, ?_⟩
  intro hname o x y hxy hx
  simp only at hx ⊢
  cases ha : r o (Draft.ofJson x) with
  | error e =>
    rw [ha] at hx
    cases hx
  | ok a =>
    rw [h hname o x y a hxy ha]
    rfl

theorem guards_plain {r : Record α}
    (h : ∀ f ∈ r.fields, f.name ∈ targets → ∀ o, f.check o (Draft.ofJson z) = .error cause) :
    r.Guards targets z cause (Shape.plainFields (r.fields.map Field.name)) := by
  refine ⟨by simp, ?_⟩
  intro f hf
  refine ⟨.plain, List.mem_map_of_mem (List.mem_map_of_mem hf), ?_⟩
  intro hname o x y hxy _
  cases hxy
  exact h f hf (hname rfl) o

theorem Guards.map {r : Record α} (h : r.Guards targets z cause fields) (f : α → β) :
    (f <$> r).Guards targets z cause fields := ⟨h.names, h.checks⟩

theorem Guards.seq {f : Record (α → β)} {r : Record α} (hf : f.Guards targets z cause fields)
    (hr : r.Guards targets z cause more) : (f <*> r).Guards targets z cause (fields ++ more) := by
  constructor
  · change (f.fields ++ r.fields).map Field.name = _
    rw [List.map_append, List.map_append, hf.names, hr.names]
  · intro x hx
    rcases List.mem_append.mp hx with hx | hx
    · obtain ⟨s, hs, hcheck⟩ := hf.checks x hx
      exact ⟨s, List.mem_append_left more hs, hcheck⟩
    · obtain ⟨s, hs, hcheck⟩ := hr.checks x hx
      exact ⟨s, List.mem_append_right fields hs, hcheck⟩

variable {r : Record α} {o : Origin} {f : Field} {x y : Json}

theorem checkMembers_refuse {name : String} (hf : r.field? name = some f)
    (h : f.check o (Draft.ofJson x) = .ok () → f.check o (Draft.ofJson y) = .error cause)
    {before after : List (String × Json)} {seen : List String}
    (hread : r.checkMembers o seen (Draft.ofMembers (before ++ (name, x) :: after)) = .ok ()) :
    r.checkMembers o seen (Draft.ofMembers (before ++ (name, y) :: after)) = .error cause := by
  induction before generalizing seen with
  | nil =>
    rw [List.nil_append, checkMembers_cons_ok, hf] at hread
    obtain ⟨hseen, hx, -⟩ := hread
    simp [Draft.ofMembers, checkMembers, hf, hseen, h hx, bind, Except.bind]
  | cons m ms ih =>
    obtain ⟨k, w⟩ := m
    rw [List.cons_append, checkMembers_cons_ok] at hread
    cases hk : r.field? k with
    | none =>
      simp only [hk] at hread
      simp [Draft.ofMembers, checkMembers, hk, Draft.skip_ofJson, ih hread, bind, Except.bind]
    | some g =>
      simp only [hk] at hread
      obtain ⟨hseen, hw, hrest⟩ := hread
      simp [Draft.ofMembers, checkMembers, hk, hseen, hw, ih hrest, bind, Except.bind]

theorem checkItems_refuse {fs : List Field} {before after : List Json}
    (hf : fs[before.length]? = some f)
    (h : f.check o (Draft.ofJson x) = .ok () → f.check o (Draft.ofJson y) = .error cause)
    (hread : checkItems o none fs (Draft.ofItems (before ++ x :: after)) = .ok ()) :
    checkItems o none fs (Draft.ofItems (before ++ y :: after)) = .error cause := by
  induction before generalizing fs with
  | nil =>
    cases fs with
    | nil => cases hf
    | cons g fs =>
      obtain rfl : g = f := Option.some.inj hf
      obtain ⟨hx, -⟩ := checkItems_cons_ok.mp hread
      simp [Draft.ofItems, checkItems, h hx, bind, Except.bind]
  | cons w ws ih =>
    cases fs with
    | nil => cases hf
    | cons g fs =>
      obtain ⟨hw, hrest⟩ := checkItems_cons_ok.mp hread
      simp [Draft.ofItems, checkItems, hw, ih hf hrest, bind, Except.bind]

theorem Guards.check (h : r.Guards targets z cause fields) (hnodup : (fields.map Prod.fst).Nodup)
    (hf : f ∈ r.fields) {s : Shape} (hs : (f.name, s) ∈ fields)
    (hname : s = .plain → f.name ∈ targets) (hxy : Swaps targets z s x y)
    (hx : f.check o (Draft.ofJson x) = .ok ()) : f.check o (Draft.ofJson y) = .error cause := by
  obtain ⟨s', hs', hcheck⟩ := h.checks f hf
  cases List.inj_on_of_nodup_map hnodup hs hs' rfl
  exact hcheck hname o x y hxy hx

theorem Guards.readObject (h : r.Guards targets z cause fields)
    (hnodup : (fields.map Prod.fst).Nodup) {name : String} {s : Shape}
    {before after : List (String × Json)} (hs : (name, s) ∈ fields)
    (hname : s = .plain → name ∈ targets) (hxy : Swaps targets z s x y) {a : α}
    (hread : r.readObject o (Draft.ofMembers (before ++ (name, x) :: after)) none = .ok a) :
    r.readObject o (Draft.ofMembers (before ++ (name, y) :: after)) none = .error cause := by
  obtain ⟨f, hf⟩ : ∃ f, r.field? name = some f := by
    have hmem : name ∈ r.fields.map Field.name := by
      rw [h.names]
      exact List.mem_map_of_mem hs
    obtain ⟨f, hf, rfl⟩ := List.mem_map.mp hmem
    exact Option.isSome_iff_exists.mp (List.find?_isSome.mpr ⟨f, hf, by simp⟩)
  obtain rfl : f.name = name := by simpa using List.find?_some hf
  rw [readObject_ofMembers, bind_eq_ok_iff] at hread
  obtain ⟨⟨⟩, hmembers, -⟩ := hread
  have hcheck := h.check (o := o) hnodup (List.mem_of_find?_eq_some hf) hs hname hxy
  rw [readObject_ofMembers, checkMembers_refuse hf hcheck hmembers]
  rfl

theorem Guards.readArray (h : r.Guards targets z cause fields)
    (hnodup : (fields.map Prod.fst).Nodup) {name : String} {s : Shape}
    {before after : List Json} (hs : fields[before.length]? = some (name, s))
    (hname : s = .plain → name ∈ targets) (hxy : Swaps targets z s x y) {a : α}
    (hread : r.readArray o (Draft.ofItems (before ++ x :: after)) none = .ok a) :
    r.readArray o (Draft.ofItems (before ++ y :: after)) none = .error cause := by
  obtain ⟨f, hf, rfl⟩ : ∃ f, r.fields[before.length]? = some f ∧ f.name = name := by
    have hget : (r.fields.map Field.name)[before.length]? = some name := by
      rw [h.names, List.getElem?_map, hs]
      rfl
    rw [List.getElem?_map] at hget
    exact Option.map_eq_some_iff.mp hget
  rw [readArray_ofItems, bind_eq_ok_iff] at hread
  obtain ⟨⟨⟩, hitems, -⟩ := hread
  have hcheck := h.check (o := o) hnodup (List.mem_of_getElem? hf) (List.mem_of_getElem? hs)
    hname hxy
  rw [readArray_ofItems, checkItems_refuse hf hcheck hitems]
  rfl

theorem Guards.reader (h : r.Guards targets z cause fields) (hnodup : (fields.map Prod.fst).Nodup) :
    r.reader.Refuses targets z cause (.record fields) := by
  intro o x y a hxy hread
  cases hxy with
  | member before after hs hname hxy => exact h.readObject hnodup hs hname hxy hread
  | place before after hs hname hxy => exact h.readArray hnodup hs hname hxy hread

end Record

end Refuses

end Display3270
