import Display3270.Proofs.Json.Scanning

namespace Display3270

theorem bind_eq_ok_iff {ε α β : Type} {x : Except ε α} {f : α → Except ε β} {b : β} :
    (x >>= f) = .ok b ↔ ∃ a, x = .ok a ∧ f a = .ok b := by
  cases x with
  | error e => simp [bind, Except.bind]
  | ok a => simp [bind, Except.bind]

theorem map_eq_ok_iff {ε α β : Type} {x : Except ε α} {f : α → β} {b : β} :
    x.map f = .ok b ↔ ∃ a, x = .ok a ∧ f a = b := by
  cases x with
  | error e => simp [Except.map]
  | ok a => simp [Except.map]

theorem then_ok_iff {ε α : Type} {x : Except ε Unit} {y : Except ε α} {a : α} :
    (do x; y) = .ok a ↔ x = .ok () ∧ y = .ok a := by
  rw [bind_eq_ok_iff]
  exact ⟨fun ⟨_, hx, hy⟩ => ⟨hx, hy⟩, fun ⟨hx, hy⟩ => ⟨(), hx, hy⟩⟩

theorem eq_ok_of_toOption {ε α : Type} {x : Except ε α} {a : α} (h : x.toOption = some a) :
    x = .ok a := by
  cases x with
  | error e => cases h
  | ok b => exact congrArg Except.ok (Option.some.inj h)

section Entries

variable {α : Type}

def Ordered (ms : List (String × α)) : Prop := ms.Pairwise fun m n => m.1 < n.1

theorem mem_insertEntry {k : String} {v : α} {ms : List (String × α)} {m : String × α}
    (h : m ∈ insertEntry k v ms) : m = (k, v) ∨ m ∈ ms := by
  induction ms with
  | nil => exact .inl (List.mem_singleton.mp h)
  | cons n ms ih =>
    obtain ⟨l, w⟩ := n
    simp only [insertEntry] at h
    split at h
    · rcases List.mem_cons.mp h with h | h
      · exact .inl h
      · exact .inr (List.mem_cons_of_mem _ h)
    split at h
    · exact List.mem_cons.mp h
    · rcases List.mem_cons.mp h with rfl | h
      · exact .inr List.mem_cons_self
      · rcases ih h with h | h
        · exact .inl h
        · exact .inr (List.mem_cons_of_mem _ h)

theorem ordered_insertEntry (k : String) (v : α) {ms : List (String × α)} (h : Ordered ms) :
    Ordered (insertEntry k v ms) := by
  induction ms with
  | nil => exact List.pairwise_singleton _ _
  | cons n ms ih =>
    obtain ⟨l, w⟩ := n
    obtain ⟨hl, hms⟩ := List.pairwise_cons.mp h
    simp only [insertEntry]
    split
    case isTrue hk =>
      subst hk
      exact List.pairwise_cons.mpr ⟨hl, hms⟩
    case isFalse hk =>
      split
      case isTrue hkl =>
        apply List.pairwise_cons.mpr
        refine ⟨?_, h⟩
        intro m hm
        rcases List.mem_cons.mp hm with rfl | hm
        · exact hkl
        · exact String.lt_trans hkl (hl m hm)
      case isFalse hkl =>
        apply List.pairwise_cons.mpr
        refine ⟨?_, ih hms⟩
        intro m hm
        rcases mem_insertEntry hm with rfl | hm
        · apply String.not_le.mp
          intro hle
          exact hk (String.le_antisymm hle (String.not_lt.mp hkl))
        · exact hl m hm

theorem lookup_cons_ite (k l : String) (v : α) (ms : List (String × α)) :
    ((l, v) :: ms).lookup k = if k = l then some v else ms.lookup k := by
  by_cases h : k = l
  · simp [h]
  · rw [List.lookup_cons, beq_false_of_ne h, if_neg h]

theorem lookup_insertEntry (k l : String) (v : α) (ms : List (String × α)) :
    (insertEntry k v ms).lookup l = if l = k then some v else ms.lookup l := by
  induction ms with
  | nil => simp [insertEntry, lookup_cons_ite]
  | cons n ms ih =>
    obtain ⟨key, w⟩ := n
    simp only [insertEntry]
    split
    case isTrue hk =>
      subst hk
      simp only [lookup_cons_ite]
      split <;> rfl
    case isFalse hk =>
      split
      · rw [lookup_cons_ite]
      · simp only [lookup_cons_ite, ih]
        by_cases hl : l = key
        · subst hl
          simp [Ne.symm hk]
        · simp [hl]

theorem ordered_sortEntries (ms : List (String × α)) : Ordered (sortEntries ms) := by
  suffices h : ∀ acc : List (String × α), Ordered acc →
      Ordered (ms.foldl (fun acc m => insertEntry m.1 m.2 acc) acc) from h [] List.Pairwise.nil
  induction ms with
  | nil => exact fun acc hacc => hacc
  | cons m ms ih => exact fun acc hacc => ih _ (ordered_insertEntry m.1 m.2 hacc)

theorem mem_sortEntries {ms : List (String × α)} {m : String × α} (h : m ∈ sortEntries ms) :
    m ∈ ms := by
  suffices hs : ∀ acc : List (String × α),
      m ∈ ms.foldl (fun acc m => insertEntry m.1 m.2 acc) acc → m ∈ acc ∨ m ∈ ms by
    rcases hs [] h with h | h
    · cases h
    · exact h
  clear h
  induction ms with
  | nil => exact fun acc h => .inl h
  | cons n ms ih =>
    intro acc h
    rcases ih _ h with h | h
    · rcases mem_insertEntry h with rfl | h
      · exact .inr List.mem_cons_self
      · exact .inl h
    · exact .inr (List.mem_cons_of_mem n h)

theorem lookup_sortEntries (ms : List (String × α)) (k : String) :
    (sortEntries ms).lookup k = ms.reverse.lookup k := by
  suffices h : ∀ acc : List (String × α),
      (ms.foldl (fun acc m => insertEntry m.1 m.2 acc) acc).lookup k =
        (ms.reverse.lookup k).or (acc.lookup k) by
    simpa [sortEntries] using h []
  induction ms with
  | nil => simp
  | cons m ms ih =>
    obtain ⟨l, v⟩ := m
    intro acc
    simp only [List.foldl_cons, ih, lookup_insertEntry, List.reverse_cons, List.lookup_append,
      lookup_cons_ite, List.lookup_nil, Option.or_assoc]
    split <;> rfl

theorem insertEntry_of_last (k : String) (v : α) {ms : List (String × α)}
    (h : ∀ m ∈ ms, m.1 < k) : insertEntry k v ms = ms ++ [(k, v)] := by
  induction ms with
  | nil => rfl
  | cons n ms ih =>
    obtain ⟨hn, hms⟩ := List.forall_mem_cons.mp h
    have hne : k ≠ n.1 := (String.ne_of_lt hn).symm
    have hlt : ¬k < n.1 := String.lt_asymm hn
    simp only [insertEntry, hne, hlt, ↓reduceIte, ih hms, List.cons_append]

theorem sortEntries_of_ordered {ms : List (String × α)} (h : Ordered ms) : sortEntries ms = ms := by
  suffices hs : ∀ acc : List (String × α), Ordered (acc ++ ms) →
      ms.foldl (fun acc m => insertEntry m.1 m.2 acc) acc = acc ++ ms from hs [] h
  clear h
  induction ms with
  | nil => simp
  | cons m ms ih =>
    intro acc hacc
    have hlast : ∀ n ∈ acc, n.1 < m.1 := fun n hn =>
      (List.pairwise_append.mp hacc).2.2 n hn m List.mem_cons_self
    rw [List.foldl_cons, insertEntry_of_last _ _ hlast, ih]
    · simp
    · simpa using hacc

end Entries

namespace Json

mutual

def normal : Json → Json
  | .null => .null
  | .bool b => .bool b
  | .num n => .num n
  | .str s => .str s
  | .arr xs => .arr (normalItems xs)
  | .obj ms => .obj (sortEntries (normalMembers ms))

def normalItems : List Json → List Json
  | [] => []
  | x :: xs => normal x :: normalItems xs

def normalMembers : List (String × Json) → List (String × Json)
  | [] => []
  | (k, x) :: ms => (k, normal x) :: normalMembers ms

end

mutual

def depth : Json → Nat
  | .arr xs => itemDepth xs + 1
  | .obj ms => memberDepth ms + 1
  | _ => 0

def itemDepth : List Json → Nat
  | [] => 0
  | x :: xs => max (depth x) (itemDepth xs)

def memberDepth : List (String × Json) → Nat
  | [] => 0
  | (_, x) :: ms => max (depth x) (memberDepth ms)

end

mutual

def floatFree : Json → Bool
  | .num (.int _) => true
  | .num _ => false
  | .arr xs => itemsFloatFree xs
  | .obj ms => membersFloatFree ms
  | _ => true

def itemsFloatFree : List Json → Bool
  | [] => true
  | x :: xs => floatFree x && itemsFloatFree xs

def membersFloatFree : List (String × Json) → Bool
  | [] => true
  | (_, x) :: ms => floatFree x && membersFloatFree ms

end

/-- The values that texts spell: numbers of 64 bits, objects in the order of their keys. -/
inductive Canonical : Json → Prop
  | null : Canonical .null
  | bool (b : Bool) : Canonical (.bool b)
  | num {n : Number} (h : n.Fits) : Canonical (.num n)
  | str (s : String) : Canonical (.str s)
  | arr {xs : List Json} (h : ∀ x ∈ xs, Canonical x) : Canonical (.arr xs)
  | obj {ms : List (String × Json)} (h : ∀ m ∈ ms, Canonical m.2) (keys : Ordered ms) :
      Canonical (.obj ms)

inductive Exact : Json → Prop
  | null : Exact .null
  | bool (b : Bool) : Exact (.bool b)
  | int {n : Int} (h : (Number.int n).Fits) : Exact (.num (.int n))
  | str (s : String) : Exact (.str s)
  | arr {xs : List Json} (h : ∀ x ∈ xs, Exact x) : Exact (.arr xs)
  | obj {ms : List (String × Json)} (h : ∀ m ∈ ms, Exact m.2) : Exact (.obj ms)

theorem normalItems_eq (xs : List Json) : normalItems xs = xs.map normal := by
  induction xs with
  | nil => rfl
  | cons x xs ih => rw [normalItems, ih, List.map_cons]

theorem normalMembers_eq (ms : List (String × Json)) :
    normalMembers ms = ms.map fun m => (m.1, m.2.normal) := by
  induction ms with
  | nil => rfl
  | cons m ms ih => rw [normalMembers, ih, List.map_cons]

theorem itemDepth_le_iff {xs : List Json} {n : Nat} :
    itemDepth xs ≤ n ↔ ∀ x ∈ xs, x.depth ≤ n := by
  induction xs with
  | nil => simp [itemDepth]
  | cons x xs ih => simp only [itemDepth, Nat.max_le, ih, List.forall_mem_cons]

theorem memberDepth_le_iff {ms : List (String × Json)} {n : Nat} :
    memberDepth ms ≤ n ↔ ∀ m ∈ ms, m.2.depth ≤ n := by
  induction ms with
  | nil => simp [memberDepth]
  | cons m ms ih => simp only [memberDepth, Nat.max_le, ih, List.forall_mem_cons]

theorem itemsFloatFree_iff {xs : List Json} : itemsFloatFree xs ↔ ∀ x ∈ xs, x.floatFree := by
  induction xs with
  | nil => simp [itemsFloatFree]
  | cons x xs ih => simp only [itemsFloatFree, Bool.and_eq_true, ih, List.forall_mem_cons]

theorem membersFloatFree_iff {ms : List (String × Json)} :
    membersFloatFree ms ↔ ∀ m ∈ ms, m.2.floatFree := by
  induction ms with
  | nil => simp [membersFloatFree]
  | cons m ms ih => simp only [membersFloatFree, Bool.and_eq_true, ih, List.forall_mem_cons]

theorem Canonical.items {xs : List Json} (h : (Json.arr xs).Canonical) :
    ∀ x ∈ xs, x.Canonical := by
  cases h with
  | arr h => exact h

theorem Canonical.members {ms : List (String × Json)} (h : (Json.obj ms).Canonical) :
    ∀ m ∈ ms, m.2.Canonical := by
  cases h with
  | obj h keys => exact h

theorem Canonical.normal_eq {j : Json} (h : j.Canonical) : j.normal = j := by
  induction h with
  | null => rfl
  | bool b => rfl
  | num h => rfl
  | str s => rfl
  | @arr xs h ih =>
    rw [normal, normalItems_eq, List.map_congr_left ih, List.map_id']
  | @obj ms h keys ih =>
    have hms : ms.map (fun m => (m.1, m.2.normal)) = ms := by
      calc ms.map (fun m => (m.1, m.2.normal)) = ms.map fun m => m :=
            List.map_congr_left fun m hm => Prod.ext rfl (ih m hm)
        _ = ms := List.map_id' ms
    rw [normal, normalMembers_eq, hms, sortEntries_of_ordered keys]

theorem Canonical.exact {j : Json} (h : j.Canonical) (hf : j.floatFree) : j.Exact := by
  induction h with
  | null => exact .null
  | bool b => exact .bool b
  | @num n h =>
    cases n with
    | int n => exact .int h
    | double x => cases hf
    | single x => cases hf
  | str s => exact .str s
  | arr h ih =>
    have hall := itemsFloatFree_iff.mp hf
    exact .arr fun x hx => ih x hx (hall x hx)
  | obj h keys ih =>
    have hall := membersFloatFree_iff.mp hf
    exact .obj fun m hm => ih m hm (hall m hm)

end Json

namespace Draft

mutual

theorem value_ofJson (limit : Option Nat) :
    ∀ j : Json, (∀ n ∈ limit, j.depth ≤ n) → (ofJson j).value limit = .ok j.normal
  | .null, _ => rfl
  | .bool _, _ => rfl
  | .num _, _ => rfl
  | .str _, _ => rfl
  | .arr xs, h => by
    have hne : limit ≠ some 0 := by
      rintro rfl
      exact absurd (h 0 rfl) (by simp [Json.depth])
    have hxs := values_ofItems (limit.map (· - 1)) xs (by
      intro n hn
      obtain ⟨m, hm, rfl⟩ := Option.map_eq_some_iff.mp hn
      have hle := h m hm
      simp only [Json.depth] at hle
      omega)
    simp only [ofJson, value, hne, ↓reduceIte, hxs, Json.normal]
    rfl
  | .obj ms, h => by
    have hne : limit ≠ some 0 := by
      rintro rfl
      exact absurd (h 0 rfl) (by simp [Json.depth])
    have hms := memberValues_ofMembers (limit.map (· - 1)) ms (by
      intro n hn
      obtain ⟨m, hm, rfl⟩ := Option.map_eq_some_iff.mp hn
      have hle := h m hm
      simp only [Json.depth] at hle
      omega)
    simp only [ofJson, value, hne, ↓reduceIte, hms, Json.normal]
    rfl

theorem values_ofItems (limit : Option Nat) :
    ∀ xs : List Json, (∀ n ∈ limit, Json.itemDepth xs ≤ n) →
      values limit (ofItems xs) = .ok (Json.normalItems xs)
  | [], _ => rfl
  | x :: xs, h => by
    have hx := value_ofJson limit x fun n hn => (Nat.max_le.mp (h n hn)).1
    have hxs := values_ofItems limit xs fun n hn => (Nat.max_le.mp (h n hn)).2
    simp only [ofItems, values, hx, hxs]
    rfl

theorem memberValues_ofMembers (limit : Option Nat) :
    ∀ ms : List (String × Json), (∀ n ∈ limit, Json.memberDepth ms ≤ n) →
      memberValues limit (ofMembers ms) = .ok (Json.normalMembers ms)
  | [], _ => rfl
  | (k, x) :: ms, h => by
    have hx := value_ofJson limit x fun n hn => (Nat.max_le.mp (h n hn)).1
    have hms := memberValues_ofMembers limit ms fun n hn => (Nat.max_le.mp (h n hn)).2
    simp only [ofMembers, memberValues, hx, hms]
    rfl

end

theorem mem_values {limit : Option Nat} {ds : List Draft} {xs : List Json}
    (h : values limit ds = .ok xs) : ∀ x ∈ xs, ∃ d ∈ ds, d.value limit = .ok x := by
  induction ds generalizing xs with
  | nil =>
    cases h
    simp
  | cons d ds ih =>
    obtain ⟨y, hy, h⟩ := bind_eq_ok_iff.mp h
    obtain ⟨ys, hys, h⟩ := bind_eq_ok_iff.mp h
    cases h
    intro x hx
    rcases List.mem_cons.mp hx with rfl | hx
    · exact ⟨d, List.mem_cons_self, hy⟩
    · obtain ⟨e, he, hv⟩ := ih hys x hx
      exact ⟨e, List.mem_cons_of_mem d he, hv⟩

theorem mem_memberValues {limit : Option Nat} {ds : List (Option String × Draft)}
    {ms : List (String × Json)} (h : memberValues limit ds = .ok ms) :
    ∀ m ∈ ms, ∃ d ∈ ds, d.2.value limit = .ok m.2 := by
  induction ds generalizing ms with
  | nil =>
    cases h
    simp
  | cons d ds ih =>
    obtain ⟨k, d⟩ := d
    cases k with
    | none => cases h
    | some k =>
      obtain ⟨y, hy, h⟩ := bind_eq_ok_iff.mp h
      obtain ⟨ys, hys, h⟩ := bind_eq_ok_iff.mp h
      cases h
      intro m hm
      rcases List.mem_cons.mp hm with rfl | hm
      · exact ⟨(some k, d), List.mem_cons_self, hy⟩
      · obtain ⟨e, he, hv⟩ := ih hys m hm
        exact ⟨e, List.mem_cons_of_mem _ he, hv⟩

theorem canonical_of_value {d : Draft} (hd : d.Fits) {limit : Option Nat} {j : Json}
    (h : d.value limit = .ok j) : j.Canonical ∧ ∀ n ∈ limit, j.depth ≤ n := by
  -- on the derivation of `Fits`, since the recursion of drafts runs through their lists
  induction hd generalizing limit j with
  | null =>
    cases h
    exact ⟨.null, fun n _ => Nat.zero_le n⟩
  | bool b =>
    cases h
    exact ⟨.bool b, fun n _ => Nat.zero_le n⟩
  | num hn =>
    cases h
    exact ⟨.num hn, fun n _ => Nat.zero_le n⟩
  | str s =>
    cases h
    exact ⟨.str s, fun n _ => Nat.zero_le n⟩
  | arr f _ ih =>
    rw [value] at h
    split at h
    case isTrue => cases h
    case isFalse hne =>
      obtain ⟨xs, hxs, h⟩ := bind_eq_ok_iff.mp h
      obtain ⟨⟨⟩, -, h⟩ := bind_eq_ok_iff.mp h
      cases h
      have hall : ∀ x ∈ xs, x.Canonical ∧ ∀ n ∈ limit.map (· - 1), x.depth ≤ n := by
        intro x hx
        obtain ⟨d, hd, hv⟩ := mem_values hxs x hx
        exact ih d hd hv
      refine ⟨.arr fun x hx => (hall x hx).1, ?_⟩
      rintro n rfl
      have hpos : n ≠ 0 := fun hn => hne (congrArg some hn)
      have hle : Json.itemDepth xs ≤ n - 1 :=
        Json.itemDepth_le_iff.mpr fun x hx => (hall x hx).2 (n - 1) rfl
      simp only [Json.depth]
      omega
  | obj f _ ih =>
    rw [value] at h
    split at h
    case isTrue => cases h
    case isFalse hne =>
      obtain ⟨ms, hms, h⟩ := bind_eq_ok_iff.mp h
      obtain ⟨⟨⟩, -, h⟩ := bind_eq_ok_iff.mp h
      cases h
      have hall : ∀ m ∈ sortEntries ms,
          m.2.Canonical ∧ ∀ n ∈ limit.map (· - 1), m.2.depth ≤ n := by
        intro m hm
        obtain ⟨d, hd, hv⟩ := mem_memberValues hms m (mem_sortEntries hm)
        exact ih d hd hv
      refine ⟨.obj (fun m hm => (hall m hm).1) (ordered_sortEntries ms), ?_⟩
      rintro n rfl
      have hpos : n ≠ 0 := fun hn => hne (congrArg some hn)
      have hle : Json.memberDepth (sortEntries ms) ≤ n - 1 :=
        Json.memberDepth_le_iff.mpr fun m hm => (hall m hm).2 (n - 1) rfl
      simp only [Json.depth]
      omega
  | fault f => cases h

namespace Scanner

theorem finish_fits {s : Scanner} (h : s.Sound) : s.finish.1.Fits ∨ s.finish.1.Fails := by
  obtain ⟨st, mode⟩ := s
  cases mode with
  | finished d trailing => exact .inl h.mode
  | number n p =>
    cases hp : p.complete with
    | false =>
      simp only [finish, hp]
      exact .inr (fails_wrap st (fails_fault _))
    | true =>
      rw [← finish_deliver n.draft st n p rfl hp]
      cases st with
      | nil => exact .inl (fits_numeral n)
      | cons frame st =>
        cases frame with
        | items done => exact .inr (fails_wrap st (fails_arr_fault _ _))
        | members done key => exact .inr (fails_wrap st (fails_obj_fault _ _))
  | broken d => exact .inr h.mode
  | _ => exact .inr (fails_cutOff h.mode (by simp))

end Scanner

end Draft

namespace Json

theorem canonical_of_parse {s : String} {j : Json} (h : parse s = .ok j) :
    j.Canonical ∧ j.depth ≤ Draft.depthLimit := by
  obtain ⟨hv, -⟩ := (parse_eq_ok_iff s j).mp h
  have hsound := Draft.Scanner.sound_steps s.toList Draft.Scanner.sound_start
  rcases Draft.Scanner.finish_fits hsound with hfits | hfails
  · obtain ⟨hc, hd⟩ := Draft.canonical_of_value hfits hv
    exact ⟨hc, hd Draft.depthLimit rfl⟩
  · obtain ⟨e, he⟩ := hfails (some Draft.depthLimit)
    exact absurd (he.symm.trans hv) (by simp)

end Json

end Display3270
