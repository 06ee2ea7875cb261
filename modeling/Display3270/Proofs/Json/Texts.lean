import Display3270.Proofs.Json.Fields
import Display3270.Proofs.Json.Printing

namespace Display3270

theorem lookup_eq_lastEntry {α : Type} {ms : List (String × α)} (h : Distinct ms) (k : String) :
    ms.lookup k = lastEntry ms k := by
  induction ms with
  | nil => rfl
  | cons m ms ih =>
    obtain ⟨l, v⟩ := m
    obtain ⟨hl, hms⟩ := List.pairwise_cons.mp h
    rw [lookup_cons_ite, lastEntry_cons, ← ih hms]
    by_cases hk : k = l
    · have hnone : ms.lookup k = none := by
        apply List.lookup_eq_none_iff.mpr
        intro m hm
        have hne := hl m hm
        simpa [hk] using hne
      rw [if_pos hk, if_pos hk, hnone, Option.none_or]
    · rw [if_neg hk, if_neg hk, Option.or_none]

theorem mem_of_lastEntry {α : Type} {ms : List (String × α)} {k : String} {v : α}
    (h : lastEntry ms k = some v) : ∃ l, (l, v) ∈ ms := by
  obtain ⟨before, after, hms, -⟩ := List.lookup_eq_some_iff.mp h
  exact ⟨k, List.mem_reverse.mp (by simp [hms])⟩

theorem Json.MembersPrint.readAs {n : Nat} {ms : List (String × Json)} (h : MembersPrint n ms) :
    MembersReadAs ms ms :=
  membersReadAs_refl fun m hm => (h m hm).1.readAs

namespace Reader

variable {α β : Type} {r : Reader α}

def Rereads (r : Reader α) (x : Json) (a : α) : Prop := r .text (Draft.ofJson x) = .ok a

theorem Reads.rereads {x : Json} {a : α} (h : r.Reads x a) (hx : x.normal = x) :
    r.Rereads x a := by
  have htext := h .text
  rwa [hx] at htext

theorem string_rereads (s : String) : string.Rereads (.str s) s := rfl

theorem Rereads.map {x : Json} {a : α} (h : r.Rereads x a) (f : α → β) :
    (r.map f).Rereads x (f a) := by
  rw [Rereads, Reader.map, h]
  rfl

theorem Rereads.option {x : Json} {a : α} (h : r.Rereads x a) (hx : x ≠ .null) :
    r.option.Rereads x (some a) := by
  have hmap : (r .text (Draft.ofJson x)).map some = .ok (some a) := by
    rw [h]
    rfl
  cases x with
  | null => exact absurd rfl hx
  | _ => exact hmap

theorem rereads_list {write : α → Json} (h : ∀ a, r.Rereads (write a) a) (xs : List α) :
    r.list.Rereads (.arr (xs.map write)) xs := by
  have hitems : items r .text (Draft.ofItems (xs.map write)) = .ok xs := by
    induction xs with
    | nil => rfl
    | cons x xs ih =>
      have hx := h x
      rw [Rereads] at hx
      simp only [List.map_cons, Draft.ofItems, items, hx, ih]
      rfl
  rw [Rereads, Draft.ofJson, list, hitems]
  rfl

theorem rereads_members {write : α → Json} (h : ∀ a, r.Rereads (write a) a)
    (ms : List (String × α)) :
    (members r).Rereads (.obj (ms.map fun m => (m.1, write m.2))) ms := by
  have hentries :
      entries r .text (Draft.ofMembers (ms.map fun m => (m.1, write m.2))) = .ok ms := by
    induction ms with
    | nil => rfl
    | cons m ms ih =>
      have hm := h m.2
      rw [Rereads] at hm
      simp only [List.map_cons, Draft.ofMembers, entries, hm, ih]
      rfl
  rw [Rereads, Draft.ofJson, members, hentries]
  rfl

theorem rereads_choice {find : String → Option (Variant α)} {name : String} {x : Json} {a : α}
    (hr : r.Rereads x a) (h : find name = some (.carrying r)) :
    (choice find).Rereads (.obj [(name, x)]) a := by
  rw [Rereads] at hr
  simp only [Rereads, Draft.ofJson, Draft.ofMembers, choice, h, variantBody, hr]
  rfl

end Reader

namespace Record

open Reader

variable {α β : Type} {r : Record α} {ms : List (String × Json)}

structure Rebuilds (r : Record α) (ms : List (String × Json)) (a : α) : Prop where
  checked : r.Checked
  build (absent : String → Cause) : r.build (.of .text absent (lastEntry ms)) = .ok a

theorem Rebuilds.map {a : α} (h : r.Rebuilds ms a) (f : α → β) : (f <$> r).Rebuilds ms (f a) :=
  ⟨h.checked.map f, fun absent => build_map_ok.mpr ⟨a, h.build absent, rfl⟩⟩

theorem Rebuilds.seq {f : Record (α → β)} {g : α → β} {a : α} (hf : f.Rebuilds ms g)
    (hr : r.Rebuilds ms a) : (f <*> r).Rebuilds ms (g a) :=
  ⟨hf.checked.seq hr.checked, fun absent =>
    build_seq_ok.mpr ⟨g, hf.build absent, a, hr.build absent, rfl⟩⟩

theorem rebuilds_field {r : Reader α} {absent : Slots → Except Cause α} {name : String} {x : Json}
    {a : α} (hr : r.Rereads x a) (h : lastEntry ms name = some x) :
    (field name r absent).Rebuilds ms a := by
  refine ⟨checked_field name r absent, ?_⟩
  intro cause
  simp only [build_field, Slots.of, h, Option.map_some]
  exact hr

theorem rebuilds_absent {r : Reader α} {absent : Slots → Except Cause α} {name : String} {a : α}
    (ha : ∀ s, absent s = .ok a) (h : lastEntry ms name = none) :
    (field name r absent).Rebuilds ms a := by
  refine ⟨checked_field name r absent, ?_⟩
  intro cause
  simp only [build_field, Slots.of, h, Option.map_none]
  exact ha _

theorem rebuilds_optional {r : Reader α} {write : α → Json} {name : String} {v : Option α}
    (hr : ∀ a, r.Rereads (write a) a) (hwrite : ∀ a, write a ≠ .null)
    (h : lastEntry ms name = v.map write) : (optional name r).Rebuilds ms v := by
  cases v with
  | none => exact rebuilds_absent (fun _ => rfl) h
  | some a => exact rebuilds_field ((hr a).option (hwrite a)) h

theorem rebuilds_items {r : Reader α} {write : α → Json} {name : String} {xs : List α}
    (hr : ∀ a, r.Rereads (write a) a)
    (h : lastEntry ms name = if xs ≠ [] then some (.arr (xs.map write)) else none) :
    (defaulted name r.list []).Rebuilds ms xs := by
  cases xs with
  | nil => exact rebuilds_absent (fun _ => rfl) (by simpa using h)
  | cons x xs => exact rebuilds_field (rereads_list hr (x :: xs)) (by simpa using h)

theorem Finds.rebuilds {a : α} (h : r.Finds ms a) (hms : ∀ m ∈ ms, m.2.normal = m.2) :
    r.Rebuilds ms a := by
  refine ⟨h.checked, ?_⟩
  intro absent
  have hnormal : (fun k => (lastEntry ms k).map Json.normal) = lastEntry ms := by
    funext k
    cases hk : lastEntry ms k with
    | none => rfl
    | some x =>
      obtain ⟨l, hmem⟩ := mem_of_lastEntry hk
      exact congrArg some (hms (l, x) hmem)
  rw [← hnormal]
  exact h.build .text absent

theorem Rebuilds.rereads {a : α} (h : r.Rebuilds ms a) (hms : Distinct ms) :
    r.reader.Rereads (.obj ms) a := by
  apply readObject_of_build h.checked hms
  simp only [lookup_eq_lastEntry hms]
  exact h.build .missingField

end Record

theorem Reader.Rereads.ofText {α : Type} {r : Reader α} {x y : Json} {a : α} (h : r.Rereads y a)
    (hx : x.ReadAs y) {sp : Json.Spacing} (hsp : sp.Blank) :
    r.ofText (String.ofList (x.chars sp 0)) = .ok a := by
  have hscan : Draft.scan (x.chars sp 0) = (Draft.ofJson y, false) :=
    Draft.Scanner.scan_chars hsp hx 0
  rw [Rereads] at h
  simp only [Reader.ofText, String.toList_ofList, hscan, h]
  rfl

end Display3270
