import Mathlib.Data.List.FinRange
import Mathlib.Data.List.Nodup
import Display3270.Proofs.Layers

namespace Display3270

theorem filter_eq_map_places {α : Type} (p : α → Bool) (xs : List α) :
    xs.filter p = ((List.finRange xs.length).filter fun i => p xs[i]).map fun i => xs[i] := by
  have hall := congrArg (List.filter p) (List.map_getElem_finRange xs)
  rw [List.filter_map] at hall
  exact hall.symm

theorem filter_eq_of_places {α : Type} {xs ys : List α} (p : α → Bool)
    (place : Fin xs.length ≃ Fin ys.length) (hmoved : ∀ i, ys[place i] = xs[i])
    (hkept : ∀ i j, i < j → p xs[i] = true → p xs[j] = true → place i < place j) :
    xs.filter p = ys.filter p := by
  have hsorted (n : Nat) (q : Fin n → Bool) : ((List.finRange n).filter q).Pairwise (· < ·) :=
    (List.pairwise_lt_finRange n).filter q
  have hxs : (((List.finRange xs.length).filter fun i => p xs[i]).map place).Pairwise (· < ·) := by
    rw [List.pairwise_map]
    apply (hsorted xs.length fun i => p xs[i]).imp_of_mem
    intro i j hi hj hij
    exact hkept i j hij (List.mem_filter.mp hi).2 (List.mem_filter.mp hj).2
  have hys := hsorted ys.length fun j => p ys[j]
  have hperm : (((List.finRange xs.length).filter fun i => p xs[i]).map place).Perm
      ((List.finRange ys.length).filter fun j => p ys[j]) := by
    apply (List.perm_ext_iff_of_nodup (hxs.imp ne_of_lt) (hys.imp ne_of_lt)).mpr
    intro j
    simp only [List.mem_map, List.mem_filter, List.mem_finRange, true_and]
    constructor
    · rintro ⟨i, hi, rfl⟩
      rw [hmoved i]
      exact hi
    · intro hj
      obtain ⟨i, rfl⟩ := place.surjective j
      rw [hmoved i] at hj
      exact ⟨i, hj, rfl⟩
  have hplaces := hperm.eq_of_pairwise (fun i j _ _ hij hji => absurd hij (lt_asymm hji)) hxs hys
  rw [filter_eq_map_places p xs, filter_eq_map_places p ys, ← hplaces, List.map_map]
  apply List.map_congr_left
  intro i _
  exact (hmoved i).symm

def Change.Meets (c d : Change) : Prop := ∃ col, c.covers col = true ∧ d.covers col = true

def addressed (rs : List RowChanges) : List (UInt16 × Change) :=
  rs.flatMap fun r => r.changes.map (r.row, ·)

theorem mem_addressed {rs : List RowChanges} {row : UInt16} {c : Change} :
    (row, c) ∈ addressed rs ↔ ∃ r ∈ rs, r.row = row ∧ c ∈ r.changes := by
  simp only [addressed, List.mem_flatMap, List.mem_map, Prod.mk.injEq]
  constructor
  · rintro ⟨r, hr, d, hd, rfl, rfl⟩
    exact ⟨r, hr, rfl, hd⟩
  · rintro ⟨r, hr, rfl, hc⟩
    exact ⟨r, hr, c, hc, rfl, rfl⟩

/-- Other rows with the same changes in another order: each change has its place among them, and
changes that have a cell in common keep their order. -/
structure Reordering (rs qs : List RowChanges) where
  rows : ∀ row, (∃ r ∈ rs, r.row = row) ↔ ∃ q ∈ qs, q.row = row
  place : Fin (addressed rs).length ≃ Fin (addressed qs).length
  moved : ∀ i, (addressed qs)[place i] = (addressed rs)[i]
  kept : ∀ i j, i < j → (addressed rs)[i].1 = (addressed rs)[j].1 →
    (addressed rs)[i].2.Meets (addressed rs)[j].2 → place i < place j

theorem covering_eq_filter (rs : List RowChanges) (row col : Nat) :
    covering rs row col =
      ((addressed rs).filter fun k => k.1.toNat == row + 1 && k.2.covers col).map (·.2) := by
  simp only [covering, addressed, List.filter_flatMap, List.map_flatMap]
  congr 1
  funext r
  by_cases hrow : r.row.toNat = row + 1
  · simp [hrow, List.filter_map, Function.comp_def]
  · simp [hrow, List.filter_map, Function.comp_def]

namespace Screen

def after? (s : Screen) (u : ScreenUpdate) : Option Screen :=
  (s.update u).result.toOption.map fun _ => (s.update u).screen

theorem after?_eq_some_iff {s t : Screen} {u : ScreenUpdate} :
    s.after? u = some t ↔ ∃ events, s.update u = ⟨t, events, .ok ()⟩ := by
  rw [after?]
  rcases s.update_cases u with ⟨t, events, hu⟩ | ⟨e, hu⟩ <;> simp [hu, Except.toOption]

theorem after?_eq_none_iff {s : Screen} {u : ScreenUpdate} :
    s.after? u = none ↔ u.violations s.rows s.cols ≠ [] := by
  rw [ne_eq, ← s.update_eq_ok_iff u, Option.eq_none_iff_forall_ne_some]
  simp only [ne_eq, after?_eq_some_iff, not_exists]

theorem update_eq_of_covering {s t v : Screen} {cursor : Option Cursor}
    {rs qs : List RowChanges} {events more : List Event}
    (ht : s.update ⟨cursor, rs⟩ = ⟨t, events, .ok ()⟩)
    (hv : s.update ⟨cursor, qs⟩ = ⟨v, more, .ok ()⟩)
    (h : ∀ row col, covering rs row col = covering qs row col) : t = v := by
  obtain ⟨htrows, htcols, htfg, htbg⟩ := update_frame ht
  obtain ⟨hvrows, hvcols, hvfg, hvbg⟩ := update_frame hv
  apply eq_of_cells (htrows.trans hvrows.symm) (htcols.trans hvcols.symm) (htfg.trans hvfg.symm)
    (htbg.trans hvbg.symm)
  · rw [update_cursor ht, update_cursor hv]
  · exact (map_length_update ht).trans (map_length_update hv).symm
  · intro row col
    rw [cell?_update ht, cell?_update hv, h row col]

end Screen

theorem forall_rows_iff (rs : List RowChanges) (P : UInt16 → Prop) (Q : Change → Prop) :
    (∀ r ∈ rs, P r.row ∧ ∀ c ∈ r.changes, Q c) ↔
      (∀ row, (∃ r ∈ rs, r.row = row) → P row) ∧ ∀ k ∈ addressed rs, Q k.2 := by
  constructor
  · intro h
    constructor
    · rintro row ⟨r, hr, rfl⟩
      exact (h r hr).1
    · rintro ⟨row, c⟩ hk
      obtain ⟨r, hr, -, hc⟩ := mem_addressed.mp hk
      exact (h r hr).2 c hc
  · rintro ⟨hrows, hchanges⟩ r hr
    refine ⟨hrows r.row ⟨r, hr, rfl⟩, fun c hc => ?_⟩
    exact hchanges (r.row, c) (mem_addressed.mpr ⟨r, hr, rfl, hc⟩)

structure SameCovering (rs qs : List RowChanges) : Prop where
  rows : ∀ row, (∃ r ∈ rs, r.row = row) ↔ ∃ q ∈ qs, q.row = row
  changes : ∀ k, k ∈ addressed rs ↔ k ∈ addressed qs
  covering : ∀ row col, covering rs row col = covering qs row col

theorem SameCovering.violations_eq_nil_iff {rs qs : List RowChanges} (h : SameCovering rs qs)
    (cursor : Option Cursor) (rows cols : Nat) :
    ScreenUpdate.violations ⟨cursor, rs⟩ rows cols = [] ↔
      ScreenUpdate.violations ⟨cursor, qs⟩ rows cols = [] := by
  simp only [ScreenUpdate.violations_eq_nil_iff]
  have hrs := forall_rows_iff rs (fun row => 1 ≤ row.toNat ∧ row.toNat ≤ rows) fun c =>
    1 ≤ c.column.toNat ∧ c.column.toNat ≤ cols ∧ c.column.toNat - 1 + c.payload.length ≤ cols
  have hqs := forall_rows_iff qs (fun row => 1 ≤ row.toNat ∧ row.toNat ≤ rows) fun c =>
    1 ≤ c.column.toNat ∧ c.column.toNat ≤ cols ∧ c.column.toNat - 1 + c.payload.length ≤ cols
  simp only [and_assoc] at hrs hqs
  simp only [hrs, hqs, h.rows, h.changes]

theorem SameCovering.after?_eq {rs qs : List RowChanges} (h : SameCovering rs qs) (s : Screen)
    (cursor : Option Cursor) : s.after? ⟨cursor, rs⟩ = s.after? ⟨cursor, qs⟩ := by
  have hfits := h.violations_eq_nil_iff cursor s.rows s.cols
  by_cases hrs : ScreenUpdate.violations ⟨cursor, rs⟩ s.rows s.cols = []
  · obtain ⟨t, events, ht⟩ := (s.update_eq_ok_iff _).mpr hrs
    obtain ⟨v, more, hv⟩ := (s.update_eq_ok_iff _).mpr (hfits.mp hrs)
    rw [Screen.after?_eq_some_iff.mpr ⟨events, ht⟩, Screen.after?_eq_some_iff.mpr ⟨more, hv⟩,
      Screen.update_eq_of_covering ht hv h.covering]
  · rw [Screen.after?_eq_none_iff.mpr hrs, Screen.after?_eq_none_iff.mpr (mt hfits.mpr hrs)]

theorem sameCovering_rows (rs qs : List RowChanges) {a b : RowChanges} (h : a.row ≠ b.row) :
    SameCovering (rs ++ a :: b :: qs) (rs ++ b :: a :: qs) where
  rows row := by simp only [List.mem_append, List.mem_cons, or_left_comm]
  changes k := by
    simp only [addressed, List.flatMap_append, List.flatMap_cons, List.mem_append, or_left_comm]
  covering row col := by
    simp only [covering_append, covering_cons]
    by_cases ha : a.row.toNat = row + 1
    · have hb : b.row.toNat ≠ row + 1 := fun hb => h (UInt16.toNat_inj.mp (ha.trans hb.symm))
      simp only [if_neg hb, List.nil_append]
    · simp only [if_neg ha, List.nil_append]

theorem filter_covers_swap (cs ds : List Change) {c d : Change} (h : ¬c.Meets d) (col : Nat) :
    (cs ++ c :: d :: ds).filter (fun e => e.covers col) =
      (cs ++ d :: c :: ds).filter fun e => e.covers col := by
  simp only [List.filter_append]
  congr 1
  by_cases hc : c.covers col = true
  · have hd : ¬d.covers col = true := fun hd => h ⟨col, hc, hd⟩
    simp only [List.filter_cons, if_neg hd]
  · simp only [List.filter_cons, if_neg hc]

theorem sameCovering_changes (rs qs : List RowChanges) (row : UInt16) (cs ds : List Change)
    {c d : Change} (h : ¬c.Meets d) :
    SameCovering (rs ++ ⟨row, cs ++ c :: d :: ds⟩ :: qs)
      (rs ++ ⟨row, cs ++ d :: c :: ds⟩ :: qs) where
  rows row := by simp only [List.mem_append, List.mem_cons, or_and_right, exists_or, exists_eq_left]
  changes k := by
    simp only [addressed, List.flatMap_append, List.flatMap_cons, List.map_append, List.map_cons,
      List.mem_append, List.mem_cons, or_left_comm]
  covering row col := by
    simp only [covering_append, covering_cons, filter_covers_swap cs ds h col]

theorem Reordering.sameCovering {rs qs : List RowChanges} (h : Reordering rs qs) :
    SameCovering rs qs where
  rows := h.rows
  changes k := by
    simp only [List.mem_iff_get]
    constructor
    · rintro ⟨i, rfl⟩
      exact ⟨h.place i, h.moved i⟩
    · rintro ⟨j, rfl⟩
      obtain ⟨i, rfl⟩ := h.place.surjective j
      exact ⟨i, (h.moved i).symm⟩
  covering row col := by
    rw [covering_eq_filter, covering_eq_filter]
    congr 1
    apply filter_eq_of_places _ h.place h.moved
    intro i j hij hi hj
    obtain ⟨hrow, hcol⟩ := Bool.and_eq_true_iff.mp hi
    obtain ⟨hrow', hcol'⟩ := Bool.and_eq_true_iff.mp hj
    have hsame : (addressed rs)[i].1.toNat = (addressed rs)[j].1.toNat :=
      (eq_of_beq hrow).trans (eq_of_beq hrow').symm
    exact h.kept i j hij (UInt16.toNat_inj.mp hsame) ⟨col, hcol, hcol'⟩

namespace Screen

/-- Two neighbouring rows with different numbers may be exchanged, and so may two neighbouring
changes of a row that have no column in common: the update is applied as before or rejected as
before, and leaves the same screen. The same holds of any other order of rows and changes in which
changes that have a cell in common follow each other as before. -/
theorem update_reordered (s : Screen) (cursor : Option Cursor) :
    (∀ (rs qs : List RowChanges) (a b : RowChanges), a.row ≠ b.row →
      s.after? ⟨cursor, rs ++ a :: b :: qs⟩ = s.after? ⟨cursor, rs ++ b :: a :: qs⟩) ∧
    (∀ (rs qs : List RowChanges) (row : UInt16) (cs ds : List Change) (c d : Change), ¬c.Meets d →
      s.after? ⟨cursor, rs ++ ⟨row, cs ++ c :: d :: ds⟩ :: qs⟩ =
        s.after? ⟨cursor, rs ++ ⟨row, cs ++ d :: c :: ds⟩ :: qs⟩) ∧
    ∀ rs qs : List RowChanges, Reordering rs qs →
      s.after? ⟨cursor, rs⟩ = s.after? ⟨cursor, qs⟩ := by
  refine ⟨?_, ?_, ?_⟩
  · intro rs qs a b h
    exact (sameCovering_rows rs qs h).after?_eq s cursor
  · intro rs qs row cs ds c d h
    exact (sameCovering_changes rs qs row cs ds h).after?_eq s cursor
  · intro rs qs h
    exact h.sameCovering.after?_eq s cursor

theorem update_reordered_crossing :
    let s := create 2 4 .green .black
    let a : Change := ⟨1, .text "ab", some .red, none, none⟩
    let b : Change := ⟨3, .count 2, none, some .blue, none⟩
    let c : Change := ⟨2, .text "z", none, none, some "blink"⟩
    let rs : List RowChanges := [⟨1, [a, b]⟩, ⟨2, [c]⟩, ⟨1, [c]⟩]
    let swapped : List RowChanges := [⟨1, [b, a]⟩, ⟨2, [c]⟩, ⟨1, [c]⟩]
    let crossed : List RowChanges := [⟨2, [c]⟩, ⟨1, [a, b]⟩, ⟨1, [c]⟩]
    let joined : List RowChanges := [⟨2, [c]⟩, ⟨1, [b, a, c]⟩]
    (¬a.Meets b ∧ a.Meets c ∧ (1 : UInt16) ≠ 2) ∧ Nonempty (Reordering rs joined) ∧
      (s.after? ⟨none, rs⟩).isSome = true ∧ s.after? ⟨none, rs⟩ = s.after? ⟨none, swapped⟩ ∧
      s.after? ⟨none, rs⟩ = s.after? ⟨none, crossed⟩ ∧
      s.after? ⟨none, rs⟩ = s.after? ⟨none, joined⟩ := by
  intro s a b c rs swapped crossed joined
  have hlengths : a.payload.length = 2 ∧ b.payload.length = 2 := by decide +kernel
  have hab : ¬a.Meets b := by
    rintro ⟨col, ha, hb⟩
    simp only [Change.covers, hlengths, Bool.and_eq_true, decide_eq_true_eq] at ha hb
    have hcolumns : a.column.toNat = 1 ∧ b.column.toNat = 3 := by decide
    omega
  have hac : a.Meets c := ⟨1, by decide +kernel, by decide +kernel⟩
  have hrows : (1 : UInt16) ≠ 2 := by decide
  let reordering : Reordering rs joined :=
    { rows := by simp [rs, joined, or_comm]
      place := show Fin 4 ≃ Fin 4 from Equiv.swap 0 2
      moved := by decide
      kept := by
        intro i j hij hrow hmeets
        -- of the changes in one row only the first two are in another order
        have hfirst : ∀ i j : Fin 4, i < j → (addressed rs)[i].1 = (addressed rs)[j].1 →
            Equiv.swap (0 : Fin 4) 2 i < Equiv.swap (0 : Fin 4) 2 j ∨ i = 0 ∧ j = 1 := by decide
        rcases hfirst i j hij hrow with hlt | ⟨rfl, rfl⟩
        · exact hlt
        · exact absurd hmeets hab }
  obtain ⟨hswap, hchanges, hother⟩ := s.update_reordered none
  refine ⟨⟨hab, hac, hrows⟩, ⟨reordering⟩, by decide +kernel, ?_, ?_, ?_⟩
  · exact hchanges [] _ 1 [] [] a b hab
  · exact hswap [] _ _ _ hrows
  · exact hother rs joined reordering

example :
    let s := create 1 2 .green .black
    let a : Change := ⟨1, .text "ab", none, none, none⟩
    let b : Change := ⟨2, .text "z", none, none, none⟩
    s.after? ⟨none, [⟨1, [a, b]⟩]⟩ ≠ s.after? ⟨none, [⟨1, [b, a]⟩]⟩ := by
  decide +kernel

end Screen

end Display3270
