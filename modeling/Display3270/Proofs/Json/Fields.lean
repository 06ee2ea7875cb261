import Display3270.Json.Record
import Display3270.Proofs.Json.Normal

namespace Display3270

def lastEntry {α : Type} (ms : List (String × α)) (k : String) : Option α := ms.reverse.lookup k

section Entries

variable {α : Type}

@[simp]
theorem lastEntry_nil (k : String) : lastEntry ([] : List (String × α)) k = none := rfl

@[simp]
theorem lastEntry_cons (l : String) (v : α) (ms : List (String × α)) (k : String) :
    lastEntry ((l, v) :: ms) k = (lastEntry ms k).or (if k = l then some v else none) := by
  simp only [lastEntry, List.reverse_cons, List.lookup_append, lookup_cons_ite, List.lookup_nil]

@[simp]
theorem lastEntry_append (ms ns : List (String × α)) (k : String) :
    lastEntry (ms ++ ns) k = (lastEntry ns k).or (lastEntry ms k) := by
  simp only [lastEntry, List.reverse_append, List.lookup_append]

@[simp]
theorem lastEntry_member? (l : String) (write : α → Json) (v : Option α) (k : String) :
    lastEntry (Json.member? l write v) k = if k = l then v.map write else none := by
  cases v with
  | none => simp [Json.member?]
  | some a => simp [Json.member?]

@[simp]
theorem lastEntry_items? (l : String) (write : α → Json) (xs : List α) (k : String) :
    lastEntry (Json.items? l write xs) k =
      if k = l ∧ xs ≠ [] then some (.arr (xs.map write)) else none := by
  cases xs with
  | nil => simp [Json.items?]
  | cons x xs => simp [Json.items?]

def Distinct (ms : List (String × α)) : Prop := ms.Pairwise fun m n => m.1 ≠ n.1

theorem Ordered.distinct {ms : List (String × α)} (h : Ordered ms) : Distinct ms :=
  List.Pairwise.imp String.ne_of_lt h

theorem lookup_of_mem {ms : List (String × α)} (h : Distinct ms) {m : String × α} (hm : m ∈ ms) :
    ms.lookup m.1 = some m.2 := by
  induction ms with
  | nil => cases hm
  | cons n ms ih =>
    obtain ⟨hn, hms⟩ := List.pairwise_cons.mp h
    obtain ⟨k, v⟩ := n
    rw [lookup_cons_ite]
    rcases List.mem_cons.mp hm with rfl | hm
    · rw [if_pos rfl]
    · rw [if_neg (hn m hm).symm, ih hms hm]

end Entries

namespace Draft

theorem ofItems_eq (xs : List Json) : ofItems xs = xs.map ofJson := by
  induction xs with
  | nil => rfl
  | cons x xs ih => rw [ofItems, ih, List.map_cons]

theorem findMember_ofMembers (ms : List (String × Json)) (name : String) :
    Record.findMember (ofMembers ms) name = (ms.lookup name).map ofJson := by
  induction ms with
  | nil => rfl
  | cons m ms ih =>
    obtain ⟨k, x⟩ := m
    rw [Record.findMember] at ih ⊢
    rw [ofMembers, List.lookup_cons, lookup_cons_ite, ih]
    by_cases h : name = k
    · simp [h]
    · have hk : (some name == some k) = false := by simpa using h
      simp [hk, h]

mutual

theorem skip_ofJson : ∀ j : Json, (ofJson j).skip = .ok ()
  | .null | .bool _ | .num _ | .str _ => rfl
  | .arr xs => by
    simp only [ofJson, skip, skipItems_ofItems xs]
    rfl
  | .obj ms => by
    simp only [ofJson, skip, skipMembers_ofMembers ms]
    rfl

theorem skipItems_ofItems : ∀ xs : List Json, skipItems (ofItems xs) = .ok ()
  | [] => rfl
  | x :: xs => by
    simp only [ofItems, skipItems, skip_ofJson x]
    exact skipItems_ofItems xs

theorem skipMembers_ofMembers : ∀ ms : List (String × Json), skipMembers (ofMembers ms) = .ok ()
  | [] => rfl
  | (k, x) :: ms => by
    simp only [ofMembers, skipMembers, skip_ofJson x]
    exact skipMembers_ofMembers ms

end

end Draft

def Slots.of (o : Origin) (absent : String → Cause) (find : String → Option Json) : Slots :=
  ⟨o, fun k => (find k).map Draft.ofJson, absent⟩

namespace Reader

variable {α : Type}

def Reads (r : Reader α) (x : Json) (a : α) : Prop :=
  ∀ o, r o (Draft.ofJson x.normal) = .ok a

structure Carries (r : Reader α) (write : α → Json) : Prop where
  reads (a : α) : r.Reads (write a) a
  ne_null (a : α) : write a ≠ .null

theorem Reads.option {r : Reader α} {x : Json} {a : α} (h : r.Reads x a) (hx : x ≠ .null) :
    r.option.Reads x (some a) := by
  intro o
  have ho := h o
  cases x with
  | null => exact absurd rfl hx
  | bool b =>
    change (r o (.bool b)).map some = _
    exact congrArg (Except.map some) ho
  | num n => exact congrArg (Except.map some) ho
  | str s => exact congrArg (Except.map some) ho
  | arr xs => exact congrArg (Except.map some) ho
  | obj ms => exact congrArg (Except.map some) ho

theorem Carries.items {r : Reader α} {write : α → Json} (h : r.Carries write) (o : Origin)
    (xs : List α) : items r o (Draft.ofItems ((xs.map write).map Json.normal)) = .ok xs := by
  induction xs with
  | nil => rfl
  | cons x xs ih =>
    simp only [List.map_cons, Draft.ofItems, Reader.items, h.reads x o, ih]
    rfl

theorem Carries.list {r : Reader α} {write : α → Json} (h : r.Carries write) :
    r.list.Carries fun xs => .arr (xs.map write) where
  reads xs := by
    intro o
    simp only [Json.normal, Json.normalItems_eq, Draft.ofJson, Reader.list, h.items o xs]
    rfl
  ne_null xs := by simp

end Reader

namespace Record

open Reader

variable {α β : Type}

def Checked (r : Record α) : Prop :=
  ∀ s a, r.build s = .ok a →
    ∀ f ∈ r.fields, ∀ d, s.find f.name = some d → f.check s.origin d = .ok ()

structure Finds (r : Record α) (ms : List (String × Json)) (a : α) : Prop where
  checked : r.Checked
  build (o : Origin) (absent : String → Cause) :
    r.build (.of o absent fun k => (lastEntry ms k).map Json.normal) = .ok a

theorem build_map (f : α → β) (r : Record α) (s : Slots) :
    (f <$> r).build s = (r.build s).map f := rfl

theorem build_seq (f : Record (α → β)) (r : Record α) (s : Slots) :
    (f <*> r).build s = (do
      let g ← f.build s
      let a ← r.build s
      return g a) := rfl

theorem build_field (name : String) (r : Reader α) (absent : Slots → Except Cause α) (s : Slots) :
    (field name r absent).build s =
      match s.find name with
      | some d => r s.origin d
      | none => absent s := rfl

theorem build_map_ok {f : α → β} {r : Record α} {s : Slots} {b : β} :
    (f <$> r).build s = .ok b ↔ ∃ a, r.build s = .ok a ∧ f a = b := by
  rw [build_map, map_eq_ok_iff]

theorem build_seq_ok {f : Record (α → β)} {r : Record α} {s : Slots} {b : β} :
    (f <*> r).build s = .ok b ↔ ∃ g, f.build s = .ok g ∧ ∃ a, r.build s = .ok a ∧ g a = b := by
  simp only [build_seq, bind_eq_ok_iff, pure, Except.pure, Except.ok.injEq]

theorem checked_pure (a : α) : (pure a : Record α).Checked := by
  intro s b h f hf
  cases hf

theorem checked_field (name : String) (r : Reader α) (absent : Slots → Except Cause α) :
    (field name r absent).Checked := by
  intro s a h f hf d hd
  obtain rfl := List.mem_singleton.mp hf
  rw [build_field] at h
  simp only at hd
  simp only [hd] at h
  simp only [h, Except.map]

theorem Checked.map {r : Record α} (h : r.Checked) (f : α → β) : (f <$> r).Checked := by
  intro s b hb
  obtain ⟨a, ha, -⟩ := build_map_ok.mp hb
  exact h s a ha

theorem Checked.seq {f : Record (α → β)} {r : Record α} (hf : f.Checked) (hr : r.Checked) :
    (f <*> r).Checked := by
  intro s b hb x hx
  obtain ⟨g, hg, a, ha, -⟩ := build_seq_ok.mp hb
  rcases List.mem_append.mp hx with hx | hx
  · exact hf s g hg x hx
  · exact hr s a ha x hx

theorem field?_eq_none_iff {r : Record α} {k : String} :
    r.field? k = none ↔ k ∉ r.fields.map Field.name := by
  simp [field?]

theorem checkMembers_cons_ok_iff {r : Record α} {o : Origin} {seen : List String} {k : String}
    {d : Draft} {ms : List (Option String × Draft)} :
    r.checkMembers o seen ((some k, d) :: ms) = .ok () ↔
      match r.field? k with
      | none => d.skip = .ok () ∧ r.checkMembers o seen ms = .ok ()
      | some f => k ∉ seen ∧ f.check o d = .ok () ∧ r.checkMembers o (k :: seen) ms = .ok () := by
  rw [checkMembers]
  cases hf : r.field? k with
  | none => exact then_ok_iff
  | some f =>
    by_cases hk : k ∈ seen
    · simp [hk, bind, Except.bind, throw, throwThe, MonadExceptOf.throw]
    · simp [hk, then_ok_iff]

theorem checkMembers_ofMembers {r : Record α} {o : Origin} {ms : List (String × Json)}
    (hms : Distinct ms) (seen : List String) (hseen : ∀ m ∈ ms, m.1 ∉ seen)
    (hcheck : ∀ m ∈ ms, ∀ f ∈ r.fields, f.name = m.1 → f.check o (Draft.ofJson m.2) = .ok ()) :
    r.checkMembers o seen (Draft.ofMembers ms) = .ok () := by
  induction ms generalizing seen with
  | nil => rfl
  | cons m ms ih =>
    obtain ⟨k, x⟩ := m
    obtain ⟨hk, hms⟩ := List.pairwise_cons.mp hms
    obtain ⟨hfirst, hseen⟩ := List.forall_mem_cons.mp hseen
    obtain ⟨hx, hcheck⟩ := List.forall_mem_cons.mp hcheck
    rw [Draft.ofMembers, checkMembers_cons_ok_iff]
    cases hf : r.field? k with
    | none => exact ⟨Draft.skip_ofJson x, ih hms seen hseen hcheck⟩
    | some f =>
      have hname : f.name = k := by simpa using List.find?_some hf
      refine ⟨hfirst, hx f (List.mem_of_find?_eq_some hf) hname, ?_⟩
      apply ih hms (k :: seen) ?_ hcheck
      intro m hm
      have hne : m.1 ≠ k := (hk m hm).symm
      simp [hne, hseen m hm]

theorem lookup_written (ms : List (String × Json)) (k : String) :
    (sortEntries (Json.normalMembers ms)).lookup k = (lastEntry ms k).map Json.normal := by
  rw [lookup_sortEntries, Json.normalMembers_eq, ← List.map_reverse, lastEntry]
  induction ms.reverse with
  | nil => rfl
  | cons m ms ih =>
    obtain ⟨l, x⟩ := m
    rw [List.map_cons, lookup_cons_ite, lookup_cons_ite, ih]
    split <;> rfl

theorem readObject_of_build {r : Record α} {o : Origin} {ms : List (String × Json)} {a : α}
    (hr : r.Checked) (hms : Distinct ms)
    (h : r.build (.of o .missingField fun k => ms.lookup k) = .ok a) :
    r.readObject o (Draft.ofMembers ms) none = .ok a := by
  have hfind : findMember (Draft.ofMembers ms) =
      (Slots.of o .missingField fun k => ms.lookup k).find :=
    funext (Draft.findMember_ofMembers ms)
  have hcheck : r.checkMembers o [] (Draft.ofMembers ms) = .ok () := by
    apply checkMembers_ofMembers hms
    · simp
    · intro m hm f hf hname
      apply hr _ a h f hf
      rw [← hfind, Draft.findMember_ofMembers, hname, lookup_of_mem hms hm]
      rfl
  rw [Record.readObject, hcheck, hfind]
  exact h

theorem Finds.readObject {r : Record α} {ms : List (String × Json)} {a : α} (h : r.Finds ms a)
    (o : Origin) :
    r.readObject o (Draft.ofMembers (sortEntries (Json.normalMembers ms))) none = .ok a := by
  -- the keys rise, so that no field is met twice
  apply readObject_of_build h.checked (ordered_sortEntries _).distinct
  simp only [lookup_written]
  exact h.build o .missingField

theorem Finds.pure (a : α) (ms : List (String × Json)) : (Pure.pure a : Record α).Finds ms a :=
  ⟨checked_pure a, fun _ _ => rfl⟩

theorem Finds.map {r : Record α} {ms : List (String × Json)} {a : α} (h : r.Finds ms a)
    (f : α → β) : (f <$> r).Finds ms (f a) :=
  ⟨h.checked.map f, fun o absent => build_map_ok.mpr ⟨a, h.build o absent, rfl⟩⟩

theorem Finds.seq {f : Record (α → β)} {r : Record α} {ms : List (String × Json)} {g : α → β}
    {a : α} (hf : f.Finds ms g) (hr : r.Finds ms a) : (f <*> r).Finds ms (g a) :=
  ⟨hf.checked.seq hr.checked, fun o absent =>
    build_seq_ok.mpr ⟨g, hf.build o absent, a, hr.build o absent, rfl⟩⟩

theorem finds_field {r : Reader α} {absent : Slots → Except Cause α} {ms : List (String × Json)}
    {name : String} {x : Json} {a : α} (hr : r.Reads x a) (h : lastEntry ms name = some x) :
    (field name r absent).Finds ms a := by
  refine ⟨checked_field name r absent, ?_⟩
  intro o cause
  simp only [build_field, Slots.of, h, Option.map_some]
  exact hr o

theorem finds_absent {r : Reader α} {absent : Slots → Except Cause α} {ms : List (String × Json)}
    {name : String} {a : α} (ha : ∀ s, absent s = .ok a) (h : lastEntry ms name = none) :
    (field name r absent).Finds ms a := by
  refine ⟨checked_field name r absent, ?_⟩
  intro o cause
  simp only [build_field, Slots.of, h, Option.map_none]
  exact ha _

variable {r : Reader α} {write : α → Json} {ms : List (String × Json)} {name : String}

theorem finds_required (hr : r.Carries write) {a : α} (h : lastEntry ms name = some (write a)) :
    (required name r).Finds ms a :=
  finds_field (hr.reads a) h

theorem finds_optional (hr : r.Carries write) {v : Option α}
    (h : lastEntry ms name = v.map write) : (optional name r).Finds ms v := by
  cases v with
  | none => exact finds_absent (fun _ => rfl) h
  | some a => exact finds_field ((hr.reads a).option (hr.ne_null a)) h

theorem finds_defaulted (hr : r.Carries write) {a default : α}
    (h : lastEntry ms name = some (write a)) : (defaulted name r default).Finds ms a :=
  finds_field (hr.reads a) h

theorem finds_items (hr : r.Carries write) {xs : List α}
    (h : lastEntry ms name = if xs ≠ [] then some (.arr (xs.map write)) else none) :
    (defaulted name r.list []).Finds ms xs := by
  cases xs with
  | nil => exact finds_absent (fun _ => rfl) (by simpa using h)
  | cons x xs => exact finds_field (hr.list.reads (x :: xs)) (by simpa using h)

end Record

namespace Json

def Prints (n : Nat) (x : Json) : Prop := x.Exact ∧ x.depth ≤ n

theorem Prints.mono {n m : Nat} {x : Json} (h : x.Prints n) (hnm : n ≤ m) : x.Prints m :=
  ⟨h.1, Nat.le_trans h.2 hnm⟩

@[simp]
theorem prints_null (n : Nat) : Json.null.Prints n := ⟨.null, Nat.zero_le n⟩

@[simp]
theorem prints_bool (n : Nat) (b : Bool) : (Json.bool b).Prints n := ⟨.bool b, Nat.zero_le n⟩

@[simp]
theorem prints_str (n : Nat) (s : String) : (Json.str s).Prints n := ⟨.str s, Nat.zero_le n⟩

theorem prints_natural (n : Nat) {k : Nat} (h : k < Nat.pow 2 64) :
    (natural k).Prints n := by
  refine ⟨.int ?_, Nat.zero_le n⟩
  simp only [Number.Fits, Nat.pow_eq] at h ⊢
  omega

theorem prints_arr {n : Nat} {xs : List Json} :
    (Json.arr xs).Prints (n + 1) ↔ ∀ x ∈ xs, x.Prints n := by
  constructor
  · rintro ⟨hexact, hdepth⟩ x hx
    cases hexact with
    | arr hexact =>
      exact ⟨hexact x hx, itemDepth_le_iff.mp (Nat.le_of_succ_le_succ hdepth) x hx⟩
  · intro h
    have hdepth := itemDepth_le_iff.mpr fun x hx => (h x hx).2
    exact ⟨.arr fun x hx => (h x hx).1, Nat.succ_le_succ hdepth⟩

theorem prints_obj {n : Nat} {ms : List (String × Json)} :
    (Json.obj ms).Prints (n + 1) ↔ ∀ m ∈ ms, m.2.Prints n := by
  constructor
  · rintro ⟨hexact, hdepth⟩ m hm
    cases hexact with
    | obj hexact =>
      exact ⟨hexact m hm, memberDepth_le_iff.mp (Nat.le_of_succ_le_succ hdepth) m hm⟩
  · intro h
    have hdepth := memberDepth_le_iff.mpr fun m hm => (h m hm).2
    exact ⟨.obj fun m hm => (h m hm).1, Nat.succ_le_succ hdepth⟩

theorem depth_single (k : String) (x : Json) : (Json.obj [(k, x)]).depth = x.depth + 1 := by
  simp [depth, memberDepth]

theorem normal_single (k : String) (x : Json) :
    (Json.obj [(k, x)]).normal = .obj [(k, x.normal)] := rfl

theorem prints_single {n : Nat} {k : String} {x : Json} :
    (Json.obj [(k, x)]).Prints (n + 1) ↔ x.Prints n := by
  rw [prints_obj, List.forall_mem_singleton]

def MembersPrint (n : Nat) (ms : List (String × Json)) : Prop := ∀ m ∈ ms, m.2.Prints n

@[simp]
theorem membersPrint_nil (n : Nat) : MembersPrint n [] := by
  simp [MembersPrint]

@[simp]
theorem membersPrint_cons (n : Nat) (m : String × Json) (ms : List (String × Json)) :
    MembersPrint n (m :: ms) ↔ m.2.Prints n ∧ MembersPrint n ms :=
  List.forall_mem_cons

@[simp]
theorem membersPrint_append (n : Nat) (ms ns : List (String × Json)) :
    MembersPrint n (ms ++ ns) ↔ MembersPrint n ms ∧ MembersPrint n ns :=
  List.forall_mem_append

theorem prints_obj_of_pos {n : Nat} (hn : 0 < n) {ms : List (String × Json)}
    (h : MembersPrint (n - 1) ms) : (Json.obj ms).Prints n := by
  obtain ⟨k, rfl⟩ := Nat.exists_eq_succ_of_ne_zero (Nat.ne_of_gt hn)
  exact prints_obj.mpr h

variable {α : Type}

theorem prints_arr_map {n : Nat} {write : α → Json} (h : ∀ a, (write a).Prints n)
    (xs : List α) : (Json.arr (xs.map write)).Prints (n + 1) := by
  apply prints_arr.mpr
  intro x hx
  obtain ⟨a, -, rfl⟩ := List.mem_map.mp hx
  exact h a

@[simp]
theorem membersPrint_member? (n : Nat) (key : String) (write : α → Json) (v : Option α) :
    MembersPrint n (member? key write v) ↔ ∀ a ∈ v, (write a).Prints n := by
  cases v with
  | none => simp [member?]
  | some a => simp [member?]

@[simp]
theorem membersPrint_items? (n : Nat) (key : String) (write : α → Json) (xs : List α) :
    MembersPrint n (items? key write xs) ↔ (xs ≠ [] → (Json.arr (xs.map write)).Prints n) := by
  cases xs with
  | nil => simp [items?]
  | cons x xs => simp [items?]

def Inside (x : Json) : Json → Prop
  | .arr xs => x ∈ xs
  | .obj ms => ∃ k, (k, x) ∈ ms
  | _ => False

theorem Inside.depth_lt {x j : Json} (h : x.Inside j) : x.depth < j.depth := by
  cases j with
  | arr xs => exact Nat.lt_succ_of_le (itemDepth_le_iff.mp (Nat.le_refl _) x h)
  | obj ms =>
    obtain ⟨k, hk⟩ := h
    exact Nat.lt_succ_of_le (memberDepth_le_iff.mp (Nat.le_refl _) (k, x) hk)
  | _ => cases h

theorem Inside.canonical {x j : Json} (h : x.Inside j) (hj : j.Canonical) : x.Canonical := by
  cases j with
  | arr xs => exact hj.items x h
  | obj ms =>
    obtain ⟨k, hk⟩ := h
    exact hj.members (k, x) hk
  | _ => cases h

def held (names : List String) : Json → String → Option Json
  | .obj ms, name => ms.lookup name
  | .arr xs, name => (names.zip xs).lookup name
  | _, _ => none

theorem held_inside {names : List String} {j x : Json} {name : String}
    (h : j.held names name = some x) : x.Inside j := by
  cases j with
  | arr xs =>
    obtain ⟨before, after, hzip, -⟩ := List.lookup_eq_some_iff.mp h
    have hmem : (name, x) ∈ names.zip xs := by simp [hzip]
    exact (List.of_mem_zip hmem).2
  | obj ms =>
    obtain ⟨before, after, hms, -⟩ := List.lookup_eq_some_iff.mp h
    exact ⟨name, by simp [hms]⟩
  | _ => cases h

end Json

namespace Reader

variable {α : Type}

def Shallow (r : Reader α) (write : α → Json) : Prop :=
  ∀ o j a, r o (Draft.ofJson j) = .ok a → (write a).Prints j.depth

theorem mem_items {r : Reader α} {o : Origin} {js : List Json} {xs : List α}
    (h : items r o (Draft.ofItems js) = .ok xs) :
    ∀ x ∈ xs, ∃ j ∈ js, r o (Draft.ofJson j) = .ok x := by
  induction js generalizing xs with
  | nil =>
    cases h
    simp
  | cons j js ih =>
    obtain ⟨y, hy, h⟩ := bind_eq_ok_iff.mp h
    obtain ⟨ys, hys, h⟩ := bind_eq_ok_iff.mp h
    cases h
    intro x hx
    rcases List.mem_cons.mp hx with rfl | hx
    · exact ⟨j, List.mem_cons_self, hy⟩
    · obtain ⟨i, hi, hr⟩ := ih hys x hx
      exact ⟨i, List.mem_cons_of_mem j hi, hr⟩

theorem Shallow.list {r : Reader α} {write : α → Json} (h : r.Shallow write) :
    r.list.Shallow fun xs => .arr (xs.map write) := by
  intro o j xs hread
  cases j with
  | arr js =>
    obtain ⟨ys, hys, hread⟩ := bind_eq_ok_iff.mp hread
    cases hread
    apply Json.prints_arr.mpr
    intro x hx
    obtain ⟨y, hy, rfl⟩ := List.mem_map.mp hx
    obtain ⟨i, hi, hr⟩ := mem_items hys y hy
    exact (h o i y hr).mono (Json.itemDepth_le_iff.mp (Nat.le_refl _) i hi)
  | _ => cases hread

theorem option_eq_some {r : Reader α} {o : Origin} {x : Json} {a : α}
    (h : r.option o (Draft.ofJson x) = .ok (some a)) : r o (Draft.ofJson x) = .ok a := by
  have hmap {y : Except Cause α} (h : y.map some = .ok (some a)) : y = .ok a := by
    obtain ⟨b, hb, hsame⟩ := map_eq_ok_iff.mp h
    cases hsame
    exact hb
  cases x with
  | null => cases h
  | _ => exact hmap h

theorem json_reads {x : Json} (h : x.Canonical) (o : Origin) :
    json o (Draft.ofJson x) = .ok x := by
  have hvalue := Draft.value_ofJson none x (by simp)
  rwa [h.normal_eq] at hvalue

structure Keeps (r : Reader α) (write : α → Json) : Prop where
  carries : r.Carries write
  shallow : r.Shallow write

theorem Keeps.list {r : Reader α} {write : α → Json} (h : r.Keeps write) :
    r.list.Keeps fun xs => .arr (xs.map write) :=
  ⟨h.carries.list, h.shallow.list⟩

end Reader

namespace Record

open Reader

variable {α : Type}

theorem findItem_held (names : List String) (xs : List Json) :
    findItem names (Draft.ofItems xs) = fun k => ((Json.arr xs).held names k).map Draft.ofJson := by
  funext k
  rw [findItem, Draft.ofItems_eq, List.zip_map_right, Json.held]
  induction names.zip xs with
  | nil => rfl
  | cons m ms ih =>
    obtain ⟨l, x⟩ := m
    simp only [List.map_cons, Prod.map, id_eq, lookup_cons_ite, ih]
    split <;> rfl

theorem build_held {r : Record α} {o : Origin} {j : Json} {a : α}
    (h : r.reader o (Draft.ofJson j) = .ok a) :
    0 < j.depth ∧ ∃ absent,
      r.build (.of o absent (j.held (r.fields.map Field.name))) = .ok a := by
  cases j with
  | arr xs =>
    obtain ⟨-, -, h⟩ := bind_eq_ok_iff.mp h
    rw [findItem_held] at h
    exact ⟨Nat.succ_pos _, _, h⟩
  | obj ms =>
    obtain ⟨-, -, h⟩ := bind_eq_ok_iff.mp h
    obtain ⟨-, -, h⟩ := bind_eq_ok_iff.mp h
    have hfind : findMember (Draft.ofMembers ms) = fun k => (ms.lookup k).map Draft.ofJson :=
      funext (Draft.findMember_ofMembers ms)
    rw [hfind] at h
    exact ⟨Nat.succ_pos _, _, h⟩
  | _ => cases h

theorem build_of_reader {r : Record α} {o : Origin} {j : Json} {a : α}
    (h : r.reader o (Draft.ofJson j) = .ok a) :
    0 < j.depth ∧ ∃ find absent, (∀ k x, find k = some x → x.Inside j) ∧
      r.build (.of o absent find) = .ok a := by
  obtain ⟨hpos, absent, hbuild⟩ := build_held h
  exact ⟨hpos, _, absent, fun _ _ hx => Json.held_inside hx, hbuild⟩

theorem build_of_objectReader {r : Record α} {o : Origin} {j : Json} {a : α}
    (h : r.objectReader o (Draft.ofJson j) = .ok a) : r.reader o (Draft.ofJson j) = .ok a := by
  cases j with
  | obj ms => exact h
  | _ => cases h

theorem field_ok {name : String} {r : Reader α} {missing : Slots → Except Cause α} {o : Origin}
    {absent : String → Cause} {find : String → Option Json} {a : α}
    (h : (field name r missing).build (.of o absent find) = .ok a) :
    (find name = none ∧ missing (.of o absent find) = .ok a) ∨
      ∃ x, find name = some x ∧ r o (Draft.ofJson x) = .ok a := by
  rw [build_field] at h
  simp only [Slots.of] at h ⊢
  cases hx : find name with
  | none =>
    simp only [hx, Option.map_none] at h
    exact .inl ⟨rfl, h⟩
  | some x =>
    simp only [hx, Option.map_some] at h
    exact .inr ⟨x, rfl, h⟩

theorem shallow_reader {r : Record α} {members : α → List (String × Json)}
    (h : ∀ n o find absent a, (∀ k x, find k = some x → x.depth ≤ n) →
      r.build (.of o absent find) = .ok a → Json.MembersPrint n (members a)) :
    r.reader.Shallow fun a => .obj (members a) := by
  intro o j a hread
  obtain ⟨hpos, find, absent, hinside, hbuild⟩ := build_of_reader hread
  apply Json.prints_obj_of_pos hpos
  apply h (j.depth - 1) o find absent a ?_ hbuild
  intro k x hx
  have hlt := (hinside k x hx).depth_lt
  omega

section Slots

variable {r : Reader α} {write : α → Json} {name : String} {n : Nat} {o : Origin}
  {absent : String → Cause} {find : String → Option Json}

theorem prints_required (hr : r.Shallow write) (hfind : ∀ k x, find k = some x → x.depth ≤ n)
    {a : α} (h : (required name r).build (.of o absent find) = .ok a) : (write a).Prints n := by
  rcases field_ok h with ⟨-, h⟩ | ⟨x, hx, h⟩
  · cases h
  · exact (hr o x a h).mono (hfind name x hx)

theorem prints_optional (hr : r.Shallow write) (hfind : ∀ k x, find k = some x → x.depth ≤ n)
    {v : Option α} (h : (optional name r).build (.of o absent find) = .ok v) :
    ∀ a ∈ v, (write a).Prints n := by
  rintro a rfl
  rcases field_ok h with ⟨-, h⟩ | ⟨x, hx, h⟩
  · cases h
  · exact (hr o x a (option_eq_some h)).mono (hfind name x hx)

theorem held_optional {j : Json} (hj : j.Canonical)
    (hfind : ∀ k x, find k = some x → x.Inside j) {v : Option Json}
    (h : (optional name json).build (.of o absent find) = .ok v) :
    ∀ x ∈ v, x.Canonical ∧ x.depth < j.depth ∧ x ≠ .null := by
  rintro y rfl
  rcases field_ok h with ⟨-, h⟩ | ⟨x, hx, h⟩
  · cases h
  · have hinside := hfind name x hx
    have hcanonical := hinside.canonical hj
    have hread := (json_reads hcanonical o).symm.trans (option_eq_some h)
    cases hread
    refine ⟨hcanonical, hinside.depth_lt, ?_⟩
    rintro rfl
    cases h

theorem finds_value {ms : List (String × Json)} {v : Option Json}
    (hv : ∀ x ∈ v, x.Canonical ∧ x ≠ .null)
    (h : lastEntry ms name = v ∨ lastEntry ms name = some (v.getD .null)) :
    (optional name json).Finds ms v := by
  cases v with
  | none =>
    rcases h with h | h
    · exact finds_absent (fun _ => rfl) h
    · exact finds_field (fun _ => rfl) h
  | some x =>
    obtain ⟨hcanonical, hne⟩ := hv x rfl
    have hx : lastEntry ms name = some x := h.elim id id
    have hread : json.Reads x x := by
      intro o
      rw [hcanonical.normal_eq]
      exact json_reads hcanonical o
    exact finds_field (hread.option hne) hx

theorem prints_items (hr : r.Shallow write) (hfind : ∀ k x, find k = some x → x.depth ≤ n)
    {xs : List α} (h : (defaulted name r.list []).build (.of o absent find) = .ok xs) :
    xs ≠ [] → (Json.arr (xs.map write)).Prints n := by
  intro hne
  rcases field_ok h with ⟨-, h⟩ | ⟨x, hx, h⟩
  · cases h
    exact absurd rfl hne
  · exact (hr.list o x xs h).mono (hfind name x hx)

end Slots

theorem carries_reader {r : Record α} {members : α → List (String × Json)}
    (h : ∀ a, r.Finds (members a) a) : r.reader.Carries fun a => .obj (members a) where
  reads a o := (h a).readObject o
  ne_null a := by simp

theorem keeps_flat {r : Record α} {members : α → List (String × Json)}
    (h : ∀ a, r.Finds (members a) a) (hp : ∀ n a, Json.MembersPrint n (members a)) :
    r.reader.Keeps fun a => .obj (members a) :=
  ⟨carries_reader h, shallow_reader fun n _ _ _ a _ _ => hp n a⟩

theorem keeps_object {r : Record α} {write : α → Json} (h : r.reader.Keeps write)
    (hobj : ∀ a, ∃ ms, write a = .obj ms) : r.objectReader.Keeps write where
  carries := by
    refine ⟨?_, h.carries.ne_null⟩
    intro a o
    have ha := h.carries.reads a o
    obtain ⟨ms, hms⟩ := hobj a
    rw [hms] at ha ⊢
    exact ha
  shallow o j a hread := h.shallow o j a (build_of_objectReader hread)

end Record

end Display3270
