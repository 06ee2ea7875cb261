import Display3270.Screen.Basic

namespace Display3270

theorem Change.fits_iff (c : Change) (cols : Nat) :
    c.fits cols = true ↔ 1 ≤ c.column.toNat ∧ c.column.toNat ≤ cols ∧ c.finish ≤ cols := by
  simp [fits, and_assoc]

def Change.violations (c : Change) (row : UInt16) (cols : Nat) : List ScreenError :=
  if 1 ≤ c.column.toNat ∧ c.column.toNat ≤ cols ∧
      c.column.toNat - 1 + c.payload.length ≤ cols then []
  else [.columnOutside row c.column c.payload.length cols]

def RowChanges.violations (r : RowChanges) (rows cols : Nat) : List ScreenError :=
  (if 1 ≤ r.row.toNat ∧ r.row.toNat ≤ rows then [] else [.rowOutside r.row rows]) ++
    r.changes.flatMap fun c => c.violations r.row cols

def Cursor.violations (rows cols : Nat) : Cursor → List ScreenError
  | .disabled => []
  | .enabled row column =>
    if 1 ≤ row.toNat ∧ row.toNat ≤ rows ∧ 1 ≤ column.toNat ∧ column.toNat ≤ cols then []
    else [.cursorOutside row column rows cols]

def ScreenUpdate.violations (u : ScreenUpdate) (rows cols : Nat) : List ScreenError :=
  (u.rows.flatMap fun r => r.violations rows cols) ++
    u.cursor.toList.flatMap fun cursor => cursor.violations rows cols

theorem RowChanges.violations_eq_nil_iff (r : RowChanges) (rows cols : Nat) :
    r.violations rows cols = [] ↔
      1 ≤ r.row.toNat ∧ r.row.toNat ≤ rows ∧
        ∀ c ∈ r.changes, 1 ≤ c.column.toNat ∧ c.column.toNat ≤ cols ∧
          c.column.toNat - 1 + c.payload.length ≤ cols := by
  simp only [violations, Change.violations, List.append_eq_nil_iff, List.flatMap_eq_nil_iff,
    ite_eq_left_iff, List.cons_ne_nil, imp_false, Decidable.not_not, and_assoc]

theorem Cursor.violations_eq_nil_iff (cursor : Cursor) (rows cols : Nat) :
    cursor.violations rows cols = [] ↔
      ∀ row column, cursor = .enabled row column →
        1 ≤ row.toNat ∧ row.toNat ≤ rows ∧ 1 ≤ column.toNat ∧ column.toNat ≤ cols := by
  cases cursor with
  | disabled => simp [violations]
  | enabled row column => simp [violations]

theorem ScreenUpdate.violations_eq_nil_iff (u : ScreenUpdate) (rows cols : Nat) :
    u.violations rows cols = [] ↔
      (∀ r ∈ u.rows, 1 ≤ r.row.toNat ∧ r.row.toNat ≤ rows ∧
        ∀ c ∈ r.changes, 1 ≤ c.column.toNat ∧ c.column.toNat ≤ cols ∧
          c.column.toNat - 1 + c.payload.length ≤ cols) ∧
      ∀ row column, u.cursor = some (.enabled row column) →
        1 ≤ row.toNat ∧ row.toNat ≤ rows ∧ 1 ≤ column.toNat ∧ column.toNat ≤ cols := by
  simp only [violations, List.append_eq_nil_iff, List.flatMap_eq_nil_iff,
    RowChanges.violations_eq_nil_iff, Cursor.violations_eq_nil_iff]
  cases u.cursor with
  | none => simp
  | some cursor => simp

def firstError : List ScreenError → Except ScreenError Unit
  | [] => .ok ()
  | e :: _ => .error e

theorem firstError_append (es ds : List ScreenError) :
    firstError (es ++ ds) = (do firstError es; firstError ds) := by
  cases es <;> rfl

theorem firstError_eq_ok_iff (es : List ScreenError) : firstError es = .ok () ↔ es = [] := by
  cases es <;> simp [firstError]

theorem firstError_eq_error_iff (es : List ScreenError) (e : ScreenError) :
    firstError es = .error e ↔ es.head? = some e := by
  cases es <;> simp [firstError]

namespace Screen

theorem checkChanges_eq_firstError (s : Screen) (row : UInt16) (cs : List Change) :
    s.checkChanges row cs = firstError (cs.flatMap fun c => c.violations row s.cols) := by
  induction cs with
  | nil => rfl
  | cons c cs ih =>
    rw [checkChanges, ih, List.flatMap_cons, firstError_append, Change.violations]
    simp only [c.fits_iff s.cols, Change.finish, Change.start]
    split <;> rfl

theorem checkRows_eq_firstError (s : Screen) (rs : List RowChanges) :
    s.checkRows rs = firstError (rs.flatMap fun r => r.violations s.rows s.cols) := by
  induction rs with
  | nil => rfl
  | cons r rs ih =>
    have hrow : (r.row.toNat = 0 ∨ s.rows < r.row.toNat) ↔
        ¬(1 ≤ r.row.toNat ∧ r.row.toNat ≤ s.rows) := by omega
    rw [checkRows, ih, s.checkChanges_eq_firstError, List.flatMap_cons, firstError_append,
      RowChanges.violations, firstError_append]
    simp only [hrow, ite_not]
    split <;> rfl

theorem checkCursor_eq_firstError (s : Screen) (cursor? : Option Cursor) :
    s.checkCursor cursor? =
      firstError (cursor?.toList.flatMap fun cursor => cursor.violations s.rows s.cols) := by
  cases cursor? with
  | none => rfl
  | some cursor =>
    cases cursor with
    | disabled => rfl
    | enabled row column =>
      rw [Option.toList_some, List.flatMap_singleton, checkCursor, Cursor.cell?, Cursor.violations]
      by_cases hin : 1 ≤ row.toNat ∧ row.toNat ≤ s.rows ∧ 1 ≤ column.toNat ∧ column.toNat ≤ s.cols
      · simp only [if_pos hin, firstError]
      · simp only [if_neg hin, firstError]

theorem check_eq_firstError (s : Screen) (u : ScreenUpdate) :
    s.check u = firstError (u.violations s.rows s.cols) := by
  rw [ScreenUpdate.violations, firstError_append, ← checkRows_eq_firstError,
    ← checkCursor_eq_firstError, check]

theorem check_congr {s t : Screen} (hrows : s.rows = t.rows) (hcols : s.cols = t.cols)
    (u : ScreenUpdate) : s.check u = t.check u := by
  rw [check_eq_firstError, check_eq_firstError, hrows, hcols]

theorem update_eq_error_iff (s : Screen) (u : ScreenUpdate) (e : ScreenError) :
    s.update u = ⟨s, [], .error e⟩ ↔ (u.violations s.rows s.cols).head? = some e := by
  rw [← firstError_eq_error_iff, ← check_eq_firstError, update]
  cases s.check u <;> simp

theorem result_eq_error_iff (s : Screen) (u : ScreenUpdate) (e : ScreenError) :
    (s.update u).result = .error e ↔ (u.violations s.rows s.cols).head? = some e := by
  rw [← firstError_eq_error_iff, ← check_eq_firstError, update]
  cases s.check u <;> simp

theorem update_eq_ok_iff (s : Screen) (u : ScreenUpdate) :
    (∃ t events, s.update u = ⟨t, events, .ok ()⟩) ↔ u.violations s.rows s.cols = [] := by
  rw [← firstError_eq_ok_iff, ← check_eq_firstError, update]
  cases s.check u <;> simp

end Screen

end Display3270
