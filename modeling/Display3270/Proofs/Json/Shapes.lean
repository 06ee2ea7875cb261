import Mathlib.Data.List.Nodup
import Display3270.Proofs.Json.Fields

namespace Display3270

/-- Which objects of a value are records, with the names of their fields. The fields of a flat one
are plain, and which of them it names may depend on its members. -/
inductive Shape
  | plain
  | record (fields : List (String × Shape))
  | flat (names : List (String × Json) → List String)
  | list (item : Shape)

namespace Shape

def plainFields (names : List String) : List (String × Shape) := names.map fun n => (n, .plain)

def of (names : List String) : Shape := .record (plainFields names)

@[simp]
theorem plainFields_names (names : List String) : (plainFields names).map Prod.fst = names := by
  simp [plainFields, Function.comp_def]

end Shape

inductive Grows : Shape → Json → Json → Prop
  | insert {fields : List (String × Shape)} {k : String} (v : Json) (ms : List (String × Json))
      (h : k ∉ fields.map Prod.fst) :
      Grows (.record fields) (.obj ms) (.obj (insertEntry k v ms))
  | insertFlat {names : List (String × Json) → List String} {k : String} (v : Json)
      (ms : List (String × Json)) (h : k ∉ names ms) :
      Grows (.flat names) (.obj ms) (.obj (insertEntry k v ms))
  | member {fields : List (String × Shape)} {name : String} {s : Shape} {x y : Json}
      (before after : List (String × Json)) (hs : (name, s) ∈ fields) (h : Grows s x y) :
      Grows (.record fields) (.obj (before ++ (name, x) :: after))
        (.obj (before ++ (name, y) :: after))
  | place {fields : List (String × Shape)} {name : String} {s : Shape} {x y : Json}
      (before after : List Json) (hs : fields[before.length]? = some (name, s))
      (h : Grows s x y) :
      Grows (.record fields) (.arr (before ++ x :: after)) (.arr (before ++ y :: after))
  | item {s : Shape} {x y : Json} (before after : List Json) (h : Grows s x y) :
      Grows (.list s) (.arr (before ++ x :: after)) (.arr (before ++ y :: after))

def Alike (s : Shape) (x y : Json) : Prop := x = y ∨ Grows s x y

inductive Matches (fields : List (String × Shape)) :
    List (String × Json) → List (String × Json) → Prop
  | nil : Matches fields [] []
  | keep {k : String} {x y : Json} {ms ns : List (String × Json)}
      (h : x = y ∨ ∃ s, (k, s) ∈ fields ∧ Grows s x y) (rest : Matches fields ms ns) :
      Matches fields ((k, x) :: ms) ((k, y) :: ns)
  | less {k : String} {x : Json} {ms ns : List (String × Json)} (h : k ∉ fields.map Prod.fst)
      (rest : Matches fields ms ns) : Matches fields ((k, x) :: ms) ns
  | more {k : String} {y : Json} {ms ns : List (String × Json)} (h : k ∉ fields.map Prod.fst)
      (rest : Matches fields ms ns) : Matches fields ms ((k, y) :: ns)

namespace Matches

variable {fields : List (String × Shape)}

theorem refl (ms : List (String × Json)) : Matches fields ms ms := by
  induction ms with
  | nil => exact .nil
  | cons m ms ih => exact .keep (.inl rfl) ih

theorem insertEntry {k : String} (h : k ∉ fields.map Prod.fst) (v : Json)
    (ms : List (String × Json)) : Matches fields ms (insertEntry k v ms) := by
  induction ms with
  | nil => exact .more h .nil
  | cons m ms ih =>
    obtain ⟨l, w⟩ := m
    rw [Display3270.insertEntry]
    split
    case isTrue hk =>
      subst hk
      exact .less h (.more h (refl ms))
    case isFalse =>
      split
      · exact .more h (refl _)
      · exact .keep (.inl rfl) ih

theorem member {name : String} {s : Shape} {x y : Json} (before after : List (String × Json))
    (hs : (name, s) ∈ fields) (h : Grows s x y) :
    Matches fields (before ++ (name, x) :: after) (before ++ (name, y) :: after) := by
  induction before with
  | nil => exact .keep (.inr ⟨s, hs, h⟩) (refl after)
  | cons m ms ih => exact .keep (.inl rfl) ih

theorem replace {name : String} (h : name ∉ fields.map Prod.fst) (x y : Json)
    (before after : List (String × Json)) :
    Matches fields (before ++ (name, x) :: after) (before ++ (name, y) :: after) := by
  induction before with
  | nil => exact .less h (.more h (refl after))
  | cons m ms ih => exact .keep (.inl rfl) ih

theorem lookup {ms ns : List (String × Json)} (h : Matches fields ms ns)
    (hnodup : (fields.map Prod.fst).Nodup) {p : String × Shape} (hp : p ∈ fields) :
    Option.Rel (Alike p.2) (ms.lookup p.1) (ns.lookup p.1) := by
  have hnamed : p.1 ∈ fields.map Prod.fst := List.mem_map_of_mem hp
  induction h with
  | nil => exact .none
  | @keep k x y ms ns h rest ih =>
    rw [lookup_cons_ite, lookup_cons_ite]
    by_cases hk : p.1 = k
    · rw [if_pos hk, if_pos hk]
      rcases h with rfl | ⟨s, hs, h⟩
      · exact .some (.inl rfl)
      · -- no two fields have one name
        have hps : p = (k, s) := List.inj_on_of_nodup_map hnodup hp hs hk
        rw [hps]
        exact .some (.inr h)
    · rw [if_neg hk, if_neg hk]
      exact ih
  | less h rest ih =>
    rw [lookup_cons_ite, if_neg (ne_of_mem_of_not_mem hnamed h)]
    exact ih
  | more h rest ih =>
    rw [lookup_cons_ite, if_neg (ne_of_mem_of_not_mem hnamed h)]
    exact ih

end Matches

namespace Reader

variable {α β : Type} {s : Shape}

def Fits (r : Reader α) (s : Shape) : Prop :=
  ∀ o x y, Grows s x y → r o (Draft.ofJson x) = r o (Draft.ofJson y)

theorem Fits.alike {r : Reader α} (h : r.Fits s) (o : Origin) {x y : Json} (hxy : Alike s x y) :
    r o (Draft.ofJson x) = r o (Draft.ofJson y) := by
  rcases hxy with rfl | hxy
  · rfl
  · exact h o x y hxy

theorem fits_plain (r : Reader α) : r.Fits .plain := nofun

theorem Fits.map {r : Reader α} (h : r.Fits s) (f : α → β) : (r.map f).Fits s := by
  intro o x y hxy
  rw [Reader.map, Reader.map, h o x y hxy]

theorem option_of_grows (r : Reader α) (o : Origin) {x y : Json} (h : Grows s x y) :
    r.option o (Draft.ofJson x) = (r o (Draft.ofJson x)).map some ∧
      r.option o (Draft.ofJson y) = (r o (Draft.ofJson y)).map some := by
  cases h <;> exact ⟨rfl, rfl⟩

theorem Fits.option {r : Reader α} (h : r.Fits s) : r.option.Fits s := by
  intro o x y hxy
  obtain ⟨hx, hy⟩ := option_of_grows r o hxy
  rw [hx, hy, h o x y hxy]

theorem items_congr {r : Reader α} {o : Origin} {x y : Json} (before after : List Json)
    (h : r o (Draft.ofJson x) = r o (Draft.ofJson y)) :
    items r o (Draft.ofItems (before ++ x :: after)) =
      items r o (Draft.ofItems (before ++ y :: after)) := by
  induction before with
  | nil => simp only [List.nil_append, Draft.ofItems, items, h]
  | cons z zs ih => simp only [List.cons_append, Draft.ofItems, items, ih]

theorem Fits.list {r : Reader α} (h : r.Fits s) : r.list.Fits (.list s) := by
  intro o x y hxy
  cases hxy with
  | @item _ x y before after hxy =>
    simp only [Draft.ofJson, Reader.list, items_congr before after (h o x y hxy)]

end Reader

namespace Record

open Reader

variable {α β : Type} {fields more : List (String × Shape)}

structure Follows (r : Record α) (fields : List (String × Shape)) : Prop where
  names : r.fields.map Field.name = fields.map Prod.fst
  checks : ∀ f ∈ r.fields, ∃ s, (f.name, s) ∈ fields ∧
    ∀ o x y, Grows s x y → f.check o (Draft.ofJson x) = f.check o (Draft.ofJson y)
  build : ∀ o absent (f g : String → Option Json),
    (∀ p ∈ fields, Option.Rel (Alike p.2) (f p.1) (g p.1)) →
      r.build (.of o absent f) = r.build (.of o absent g)

theorem follows_field (name : String) {r : Reader α} {s : Shape} (h : r.Fits s)
    {absent : Slots → Except Cause α}
    (habsent : ∀ o c f g, absent (.of o c f) = absent (.of o c g)) :
    (field name r absent).Follows [(name, s)] := by
  refine ⟨rfl, ?_, ?_⟩
  · intro f hf
    obtain rfl := List.mem_singleton.mp hf
    refine ⟨s, List.mem_singleton_self _, ?_⟩
    intro o x y hxy
    simp only [h o x y hxy]
  · intro o c f g hfg
    rw [build_field, build_field]
    have hname := hfg (name, s) (List.mem_singleton_self _)
    simp only [Slots.of]
    generalize f name = x, g name = y at hname
    cases hname with
    | none => exact habsent o c f g
    | some hxy => exact h.alike o hxy

theorem follows_required (name : String) {r : Reader α} {s : Shape} (h : r.Fits s) :
    (required name r).Follows [(name, s)] :=
  follows_field name h fun _ _ _ _ => rfl

theorem follows_optional (name : String) {r : Reader α} {s : Shape} (h : r.Fits s) :
    (optional name r).Follows [(name, s)] :=
  follows_field name h.option fun _ _ _ _ => rfl

theorem follows_defaulted (name : String) {r : Reader α} {s : Shape} (h : r.Fits s) (a : α) :
    (defaulted name r a).Follows [(name, s)] :=
  follows_field name h fun _ _ _ _ => rfl

theorem follows_pure (a : α) : (pure a : Record α).Follows [] :=
  ⟨rfl, nofun, fun _ _ _ _ _ => rfl⟩

theorem Follows.map {r : Record α} (h : r.Follows fields) (f : α → β) :
    (f <$> r).Follows fields := by
  refine ⟨h.names, h.checks, ?_⟩
  intro o c find find' hfind
  rw [build_map, build_map, h.build o c find find' hfind]

theorem Follows.seq {f : Record (α → β)} {r : Record α} (hf : f.Follows fields)
    (hr : r.Follows more) : (f <*> r).Follows (fields ++ more) := by
  refine ⟨?_, ?_, ?_⟩
  · change (f.fields ++ r.fields).map Field.name = _
    rw [List.map_append, List.map_append, hf.names, hr.names]
  · intro x hx
    rcases List.mem_append.mp hx with hx | hx
    · obtain ⟨s, hs, hcheck⟩ := hf.checks x hx
      exact ⟨s, List.mem_append_left more hs, hcheck⟩
    · obtain ⟨s, hs, hcheck⟩ := hr.checks x hx
      exact ⟨s, List.mem_append_right fields hs, hcheck⟩
  · intro o c find find' hfind
    obtain ⟨hfields, hmore⟩ := List.forall_mem_append.mp hfind
    rw [build_seq, build_seq, hf.build o c find find' hfields, hr.build o c find find' hmore]

section Follows

variable {r : Record α}

theorem Follows.field?_eq_none (h : r.Follows fields) {k : String}
    (hk : k ∉ fields.map Prod.fst) : r.field? k = none := by
  rw [field?_eq_none_iff, h.names]
  exact hk

theorem Follows.check_congr (h : r.Follows fields) (hnodup : (fields.map Prod.fst).Nodup)
    {f : Field} (hf : f ∈ r.fields) {s : Shape} (hs : (f.name, s) ∈ fields) (o : Origin)
    {x y : Json} (hxy : Grows s x y) :
    f.check o (Draft.ofJson x) = f.check o (Draft.ofJson y) := by
  obtain ⟨s', hs', hcheck⟩ := h.checks f hf
  cases List.inj_on_of_nodup_map hnodup hs hs' rfl
  exact hcheck o x y hxy

theorem Follows.checkMembers (h : r.Follows fields) (hnodup : (fields.map Prod.fst).Nodup)
    (o : Origin) {ms ns : List (String × Json)} (hms : Matches fields ms ns)
    (seen : List String) :
    r.checkMembers o seen (Draft.ofMembers ms) = r.checkMembers o seen (Draft.ofMembers ns) := by
  induction hms generalizing seen with
  | nil => rfl
  | @keep k x y ms ns hxy rest ih =>
    simp only [Draft.ofMembers, Record.checkMembers]
    cases hf : r.field? k with
    | none => simp only [Draft.skip_ofJson, ih seen]
    | some f =>
      have hname : f.name = k := by simpa using List.find?_some hf
      have hcheck : f.check o (Draft.ofJson x) = f.check o (Draft.ofJson y) := by
        rcases hxy with rfl | ⟨s, hs, hxy⟩
        · rfl
        · rw [← hname] at hs
          exact h.check_congr hnodup (List.mem_of_find?_eq_some hf) hs o hxy
      simp only [hcheck, ih (k :: seen)]
  | less hk rest ih =>
    simp only [Draft.ofMembers, Record.checkMembers, h.field?_eq_none hk, Draft.skip_ofJson]
    exact ih seen
  | more hk rest ih =>
    simp only [Draft.ofMembers, Record.checkMembers, h.field?_eq_none hk, Draft.skip_ofJson]
    exact ih seen

theorem readObject_ofMembers (r : Record α) (o : Origin) (ms : List (String × Json)) :
    r.readObject o (Draft.ofMembers ms) none = (do
      r.checkMembers o [] (Draft.ofMembers ms)
      r.build (.of o .missingField fun k => ms.lookup k)) := by
  have hfind : findMember (Draft.ofMembers ms) = fun k => (ms.lookup k).map Draft.ofJson :=
    funext (Draft.findMember_ofMembers ms)
  rw [readObject, hfind]
  rfl

theorem Follows.readObject (h : r.Follows fields) (hnodup : (fields.map Prod.fst).Nodup)
    (o : Origin) {ms ns : List (String × Json)} (hms : Matches fields ms ns) :
    r.readObject o (Draft.ofMembers ms) none = r.readObject o (Draft.ofMembers ns) none := by
  have hbuild := h.build o .missingField (fun k => ms.lookup k) (fun k => ns.lookup k)
    fun p hp => hms.lookup hnodup hp
  rw [readObject_ofMembers, readObject_ofMembers, h.checkMembers hnodup o hms, hbuild]

theorem findItem_ofItems (names : List String) (xs : List Json) (name : String) :
    findItem names (Draft.ofItems xs) name = ((names.zip xs).lookup name).map Draft.ofJson := by
  induction names generalizing xs with
  | nil => rfl
  | cons n ns ih =>
    cases xs with
    | nil => rfl
    | cons x xs =>
      simp only [findItem] at ih
      simp only [findItem, Draft.ofItems, List.zip_cons_cons, lookup_cons_ite, ih]
      split <;> rfl

theorem readArray_ofItems (r : Record α) (o : Origin) (xs : List Json) :
    r.readArray o (Draft.ofItems xs) none = (do
      checkItems o none r.fields (Draft.ofItems xs)
      r.build (.of o (fun _ => .wrongLength) fun k =>
        ((r.fields.map Field.name).zip xs).lookup k)) := by
  have hfind : findItem (r.fields.map Field.name) (Draft.ofItems xs) = fun k =>
      (((r.fields.map Field.name).zip xs).lookup k).map Draft.ofJson :=
    funext (findItem_ofItems _ xs)
  rw [readArray, hfind]
  rfl

theorem checkItems_congr (fs : List Field) {o : Origin} {x y : Json} (before after : List Json)
    (h : ∀ f, fs[before.length]? = some f →
      f.check o (Draft.ofJson x) = f.check o (Draft.ofJson y)) :
    checkItems o none fs (Draft.ofItems (before ++ x :: after)) =
      checkItems o none fs (Draft.ofItems (before ++ y :: after)) := by
  induction before generalizing fs with
  | nil =>
    cases fs with
    | nil => rfl
    | cons f fs => simp only [List.nil_append, Draft.ofItems, checkItems, h f rfl]
  | cons z zs ih =>
    cases fs with
    | nil => rfl
    | cons f fs =>
      have hrest := ih fs fun g hg => h g hg
      simp only [List.cons_append, Draft.ofItems, checkItems, hrest]

theorem lookup_zip_alike {s : Shape} {x y : Json} {names : List String} {name : String}
    (before after : List Json) (h : names[before.length]? = some name → Grows s x y) :
    Option.Rel (Alike s) ((names.zip (before ++ x :: after)).lookup name)
      ((names.zip (before ++ y :: after)).lookup name) := by
  have hrefl : ∀ v : Option Json, Option.Rel (Alike s) v v := by
    intro v
    cases v with
    | none => exact .none
    | some z => exact .some (.inl rfl)
  induction before generalizing names with
  | nil =>
    cases names with
    | nil => exact .none
    | cons n ns =>
      simp only [List.nil_append, List.zip_cons_cons, lookup_cons_ite]
      by_cases hn : name = n
      · subst hn
        simp only [↓reduceIte]
        exact .some (.inr (h rfl))
      · simp only [if_neg hn]
        exact hrefl _
  | cons z zs ih =>
    cases names with
    | nil => exact .none
    | cons n ns =>
      simp only [List.cons_append, List.zip_cons_cons, lookup_cons_ite]
      split
      · exact hrefl _
      · exact ih fun hn => h hn

theorem Follows.readArray (h : r.Follows fields) (hnodup : (fields.map Prod.fst).Nodup)
    (o : Origin) {name : String} {s : Shape} {x y : Json} (before after : List Json)
    (hs : fields[before.length]? = some (name, s)) (hxy : Grows s x y) :
    r.readArray o (Draft.ofItems (before ++ x :: after)) none =
      r.readArray o (Draft.ofItems (before ++ y :: after)) none := by
  have hmem : (name, s) ∈ fields := List.mem_of_getElem? hs
  have hnames : (r.fields.map Field.name)[before.length]? = some name := by
    rw [h.names, List.getElem?_map, hs]
    rfl
  have hcheck := checkItems_congr (o := o) (x := x) (y := y) r.fields before after <| by
    intro f hf
    rw [List.getElem?_map, hf] at hnames
    have hname : f.name = name := Option.some.inj hnames
    rw [← hname] at hmem
    exact h.check_congr hnodup (List.mem_of_getElem? hf) hmem o hxy
  have hbuild := h.build o (fun _ => .wrongLength)
    (fun k => ((r.fields.map Field.name).zip (before ++ x :: after)).lookup k)
    (fun k => ((r.fields.map Field.name).zip (before ++ y :: after)).lookup k) <| by
      intro p hp
      apply lookup_zip_alike before after
      intro hn
      rw [hnames] at hn
      cases List.inj_on_of_nodup_map hnodup hp hmem (Option.some.inj hn).symm
      exact hxy
  rw [readArray_ofItems, readArray_ofItems, hcheck, hbuild]

theorem Follows.reader (h : r.Follows fields) (hnodup : (fields.map Prod.fst).Nodup) :
    r.reader.Fits (.record fields) := by
  intro o x y hxy
  cases hxy with
  | insert v ms hk => exact h.readObject hnodup o (.insertEntry hk v ms)
  | member before after hs hxy => exact h.readObject hnodup o (.member before after hs hxy)
  | place before after hs hxy => exact h.readArray hnodup o before after hs hxy

theorem Follows.objectReader (h : r.Follows fields) (hnodup : (fields.map Prod.fst).Nodup) :
    r.objectReader.Fits (.record fields) := by
  intro o x y hxy
  cases hxy with
  | insert v ms hk => exact h.readObject hnodup o (.insertEntry hk v ms)
  | member before after hs hxy => exact h.readObject hnodup o (.member before after hs hxy)
  | place before after hs hxy => rfl

end Follows

class Flat (r : Record α) : Prop where
  follows : r.Follows (Shape.plainFields (r.fields.map Field.name))
  checked : r.Checked

section Flat

variable (name : String) (r : Reader α)

instance : Flat (required name r) :=
  ⟨follows_required name (fits_plain r), checked_field name r _⟩

instance : Flat (optional name r) :=
  ⟨follows_optional name (fits_plain r), checked_field name r.option _⟩

instance (a : α) : Flat (defaulted name r a) :=
  ⟨follows_defaulted name (fits_plain r) a, checked_field name r _⟩

instance (a : α) : Flat (pure a) := ⟨follows_pure a, checked_pure a⟩

instance (f : α → β) (r : Record α) [h : Flat r] : Flat (f <$> r) :=
  ⟨h.follows.map f, h.checked.map f⟩

instance (f : Record (α → β)) (r : Record α) [hf : Flat f] [hr : Flat r] : Flat (f <*> r) := by
  have hseq := hf.follows.seq hr.follows
  rw [Shape.plainFields, Shape.plainFields, ← List.map_append, ← List.map_append] at hseq
  exact ⟨hseq, hf.checked.seq hr.checked⟩

variable {r : Record α}

theorem Flat.build_congr [h : Flat r] (o : Origin) (absent : String → Cause)
    {f g : String → Option Json} (hfg : ∀ n ∈ r.fields.map Field.name, f n = g n) :
    r.build (.of o absent f) = r.build (.of o absent g) := by
  apply h.follows.build
  intro p hp
  obtain ⟨n, hn, rfl⟩ := List.mem_map.mp hp
  rw [hfg n hn]
  cases g n with
  | none => exact .none
  | some y => exact .some (.inl rfl)

theorem Flat.reader [h : Flat r] (hnodup : (r.fields.map Field.name).Nodup) :
    r.reader.Fits (.of (r.fields.map Field.name)) :=
  h.follows.reader (by simpa using hnodup)

theorem Flat.objectReader [h : Flat r] (hnodup : (r.fields.map Field.name).Nodup) :
    r.objectReader.Fits (.of (r.fields.map Field.name)) :=
  h.follows.objectReader (by simpa using hnodup)

theorem Flat.readObject [h : Flat r] (hnodup : (r.fields.map Field.name).Nodup) (o : Origin)
    {ms ns : List (String × Json)}
    (hms : Matches (Shape.plainFields (r.fields.map Field.name)) ms ns) :
    r.readObject o (Draft.ofMembers ms) none = r.readObject o (Draft.ofMembers ns) none :=
  h.follows.readObject (by simpa using hnodup) o hms

theorem Flat.readObject_insertEntry [h : Flat r] (hnodup : (r.fields.map Field.name).Nodup)
    (o : Origin) {k : String} (hk : k ∉ r.fields.map Field.name) (v : Json)
    (ms : List (String × Json)) :
    r.readObject o (Draft.ofMembers ms) none =
      r.readObject o (Draft.ofMembers (insertEntry k v ms)) none :=
  h.readObject hnodup o (.insertEntry (by simpa using hk) v ms)

end Flat

end Record

end Display3270
