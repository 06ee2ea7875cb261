import Mathlib.Algebra.Group.Nat.Defs
import Display3270.Proofs.Strokes
import Display3270.Session

namespace Display3270

/-- What stops a program that has words of 64 bits and lists with bounds. -/
inductive Trap
  | outside
  | belowZero
  | overflow
  deriving DecidableEq

namespace Trap

def sub (a b : Nat) : Except Trap Nat :=
  if b ≤ a then .ok (a - b) else .error .belowZero

def add (a b : Nat) : Except Trap Nat :=
  if a + b < 2 ^ 64 then .ok (a + b) else .error .overflow

def item {α : Type} (xs : List α) (i : Nat) : Except Trap α :=
  match xs[i]? with
  | some x => .ok x
  | none => .error .outside

def slice {α : Type} (xs : List α) (start finish : Nat) : Except Trap (List α) :=
  if start ≤ finish ∧ finish ≤ xs.length then .ok ((xs.drop start).take (finish - start))
  else .error .outside

theorem ok_bind {α β : Type} (x : α) (f : α → Except Trap β) : (Except.ok x >>= f) = f x := rfl

theorem sub_eq_ok {a b : Nat} (h : b ≤ a) : sub a b = .ok (a - b) := if_pos h

theorem add_eq_ok {a b : Nat} (h : a + b < 2 ^ 64) : add a b = .ok (a + b) := if_pos h

theorem item_eq_ok {α : Type} {xs : List α} {i : Nat} {x : α} (h : xs[i]? = some x) :
    item xs i = .ok x := by
  rw [item, h]

theorem slice_eq_ok {α : Type} {xs : List α} {start finish : Nat} (hstart : start ≤ finish)
    (hfinish : finish ≤ xs.length) :
    slice xs start finish = .ok ((xs.drop start).take (finish - start)) :=
  if_pos ⟨hstart, hfinish⟩

end Trap

open Trap

namespace Change

def fitsChecked (c : Change) (cols : Nat) : Bool :=
  let finish? := (sub c.column.toNat 1).toOption.bind fun start =>
    (add start c.payload.length).toOption
  finish?.any (· ≤ cols) && c.column.toNat ≤ cols

theorem fitsChecked_eq_fits (c : Change) {cols : Nat} (hcols : cols < 2 ^ 64) :
    c.fitsChecked cols = c.fits cols := by
  apply Bool.eq_iff_iff.mpr
  rw [fits_iff]
  by_cases hfirst : 1 ≤ c.column.toNat
  · by_cases hfinish : c.finish < 2 ^ 64
    · have hsum : add (c.column.toNat - 1) c.payload.length = .ok c.finish := add_eq_ok hfinish
      simp [fitsChecked, sub_eq_ok hfirst, hsum, Except.toOption, hfirst, and_comm]
    · -- a sum beyond a word is beyond the row too
      have hsum : add (c.column.toNat - 1) c.payload.length = .error .overflow := if_neg hfinish
      have hnone : c.fitsChecked cols = false := by
        simp [fitsChecked, sub_eq_ok hfirst, hsum, Except.toOption]
      rw [hnone, Bool.false_eq_true, false_iff]
      omega
  · have hzero : sub c.column.toNat 1 = .error .belowZero := if_neg hfirst
    have hnone : c.fitsChecked cols = false := by simp [fitsChecked, hzero, Except.toOption]
    rw [hnone, Bool.false_eq_true, false_iff]
    omega

def overwrite (c : Change) (finish : Nat) : List Cell → List String → Except Trap (Nat × List Cell)
  | cell :: cells, g :: gs => do
    let next ← add finish 1
    let (last, rest) ← overwrite c next cells gs
    return (last, (c.repaint cell).write g :: rest)
  | cells, _ => .ok (finish, cells)

theorem overwrite_eq (c : Change) (cells : List Cell) (gs : List String) (finish : Nat)
    (hfinish : finish + gs.length < 2 ^ 64) (hroom : gs.length ≤ cells.length) :
    c.overwrite finish cells gs =
      .ok (finish + gs.length, paint (gs.map fun g cell => (c.repaint cell).write g) cells) := by
  induction gs generalizing cells finish with
  | nil => cases cells <;> rfl
  | cons g gs ih =>
    cases cells with
    | nil => cases hroom
    | cons cell cells =>
      simp only [List.length_cons] at hfinish hroom ⊢
      have hnext : add finish 1 = .ok (finish + 1) := add_eq_ok (by omega)
      have hrest := ih cells (finish + 1) (by omega) (by omega)
      have hlast : finish + 1 + gs.length = finish + (gs.length + 1) := by omega
      rw [overwrite, hnext, ok_bind, hrest, ok_bind, hlast]
      rfl

def applyTrapping (c : Change) (start : Nat) (cells : List Cell) :
    Except Trap (Nat × List Cell) := do
  match c.payload with
  | .count n =>
    let finish ← add start n.toNat
    let span ← slice cells start finish
    return (finish, cells.take start ++ span.map c.repaint ++ cells.drop finish)
  | .text text =>
    let rest ← slice cells start cells.length
    let (finish, written) ← c.overwrite start rest (graphemes text)
    return (finish, cells.take start ++ written)

theorem paint_replicate (f : Cell → Cell) (n : Nat) (cells : List Cell) :
    paint (List.replicate n f) cells = (cells.take n).map f ++ cells.drop n := by
  induction n generalizing cells with
  | zero => rfl
  | succ n ih =>
    cases cells with
    | nil => rfl
    | cons cell cells => exact congrArg (f cell :: ·) (ih cells)

theorem applyTrapping_eq (c : Change) (cells : List Cell) (hfit : c.finish ≤ cells.length)
    (hword : cells.length < 2 ^ 64) :
    c.applyTrapping c.start cells = .ok (c.finish, c.apply cells) := by
  unfold finish at hfit
  unfold applyTrapping apply brushes finish
  cases hpayload : c.payload with
  | count n =>
    simp only [hpayload, Payload.length] at hfit ⊢
    have hsum : add c.start n.toNat = .ok (c.start + n.toNat) := add_eq_ok (by omega)
    rw [hsum, ok_bind, slice_eq_ok (by omega) hfit, ok_bind, Nat.add_sub_cancel_left,
      paint_replicate, List.drop_drop, List.append_assoc]
    rfl
  | text text =>
    simp only [hpayload, Payload.length] at hfit ⊢
    have hslice : slice cells c.start cells.length = .ok (cells.drop c.start) := by
      rw [slice_eq_ok (by omega) (Nat.le_refl _), List.take_of_length_le (by simp)]
    have hroom : (graphemes text).length ≤ (cells.drop c.start).length := by
      rw [List.length_drop]
      omega
    rw [hslice, ok_bind, c.overwrite_eq _ _ _ (by omega) hroom]
    rfl

end Change

namespace Cursor

def cellTrapping (rows cols : Nat) : Cursor → Except Trap (Option (Nat × Nat))
  | .disabled => .ok none
  | .enabled row column =>
    if 1 ≤ row.toNat ∧ row.toNat ≤ rows ∧ 1 ≤ column.toNat ∧ column.toNat ≤ cols then do
      let line ← sub row.toNat 1
      let col ← sub column.toNat 1
      return some (line, col)
    else .ok none

theorem cellTrapping_eq (c : Cursor) (rows cols : Nat) :
    c.cellTrapping rows cols = .ok (c.cell? rows cols) := by
  cases c with
  | disabled => rfl
  | enabled row column =>
    simp only [cellTrapping, cell?]
    split
    case isTrue h =>
      rw [sub_eq_ok h.1, ok_bind, sub_eq_ok h.2.2.1]
      rfl
    case isFalse => rfl

end Cursor

namespace Screen

def validateChange (s : Screen) (row : UInt16) (c : Change) : Except ScreenError Unit :=
  if c.fitsChecked s.cols then .ok ()
  else .error (.columnOutside row c.column c.payload.length s.cols)

def validateRow (s : Screen) (r : RowChanges) : Except ScreenError Unit :=
  if r.row.toNat = 0 ∨ s.rows < r.row.toNat then .error (.rowOutside r.row s.rows)
  else r.changes.forM (s.validateChange r.row)

def validateCursor (s : Screen) : Option Cursor → Except Trap (Except ScreenError Unit)
  | some (.enabled row column) => do
    match ← (Cursor.enabled row column).cellTrapping s.rows s.cols with
    | some _ => return .ok ()
    | none => return .error (.cursorOutside row column s.rows s.cols)
  | _ => .ok (.ok ())

def validate (s : Screen) (u : ScreenUpdate) : Except Trap (Except ScreenError Unit) :=
  match u.rows.forM s.validateRow with
  | .ok () => s.validateCursor u.cursor
  | .error e => .ok (.error e)

theorem validateChanges_eq (s : Screen) (hcols : s.cols < 2 ^ 64) (row : UInt16)
    (cs : List Change) : cs.forM (s.validateChange row) = s.checkChanges row cs := by
  induction cs with
  | nil => rfl
  | cons c cs ih =>
    rw [List.forM_eq_forM, List.forM_cons, ← List.forM_eq_forM, ih, validateChange, checkChanges,
      c.fitsChecked_eq_fits hcols]
    split <;> rfl

theorem validateRows_eq (s : Screen) (hcols : s.cols < 2 ^ 64) (rs : List RowChanges) :
    rs.forM s.validateRow = s.checkRows rs := by
  induction rs with
  | nil => rfl
  | cons r rs ih =>
    rw [List.forM_eq_forM, List.forM_cons, ← List.forM_eq_forM, ih, validateRow, checkRows,
      s.validateChanges_eq hcols]
    split <;> rfl

theorem validateCursor_eq (s : Screen) (cursor? : Option Cursor) :
    s.validateCursor cursor? = .ok (s.checkCursor cursor?) := by
  cases cursor? with
  | none => rfl
  | some cursor =>
    cases cursor with
    | disabled => rfl
    | enabled row column =>
      rw [validateCursor, Cursor.cellTrapping_eq, ok_bind, checkCursor]
      cases (Cursor.enabled row column).cell? s.rows s.cols <;> rfl

theorem validate_eq (s : Screen) (hcols : s.cols < 2 ^ 64) (u : ScreenUpdate) :
    s.validate u = .ok (s.check u) := by
  rw [validate, s.validateRows_eq hcols, check]
  cases s.checkRows u.rows with
  | error e => rfl
  | ok _ => exact s.validateCursor_eq u.cursor

def changeTrapping (s : Screen) (row : Nat) (c : Change) : Except Trap (Screen × Event) := do
  let start ← sub c.column.toNat 1
  let cells ← item s.grid row
  let (finish, cells) ← c.applyTrapping start cells
  let shown ← slice cells start finish
  return (⟨s.rows, s.cols, s.grid.set row cells, s.fg, s.bg, s.cursor⟩,
    .cells row start finish shown)

def changesTrapping (s : Screen) (row : Nat) : List Change → Except Trap (Screen × List Event)
  | [] => .ok (s, [])
  | c :: cs => do
    let (next, event) ← s.changeTrapping row c
    let (last, events) ← changesTrapping next row cs
    return (last, event :: events)

def rowsTrapping (s : Screen) : List RowChanges → Except Trap (Screen × List Event)
  | [] => .ok (s, [])
  | r :: rs => do
    let row ← sub r.row.toNat 1
    let (next, events) ← s.changesTrapping row r.changes
    let (last, more) ← rowsTrapping next rs
    return (last, events ++ more)

theorem changeTrapping_eq {s : Screen} (hframed : s.Framed) (hcols : s.cols < 2 ^ 64) {row : Nat}
    {c : Change} (hrow : row < s.rows) (hfit : c.fits s.cols = true) :
    s.changeTrapping row c = .ok (s.change row c, (s.change row c).changed row c) := by
  obtain ⟨hfirst, -, hfinish⟩ := (c.fits_iff s.cols).mp hfit
  obtain ⟨cells, hcells⟩ : ∃ cells, s.grid[row]? = some cells := by
    rw [← hframed.rows] at hrow
    exact ⟨_, List.getElem?_eq_getElem hrow⟩
  have hlength : cells.length = s.cols := hframed.cols cells (List.mem_of_getElem? hcells)
  rw [← hlength] at hcols hfinish
  have hset : s.grid.set row (c.apply cells) = s.grid.modify row c.apply := by
    rw [List.modify_eq_set, hcells, Option.getD_some]
  have hget : (s.grid.modify row c.apply)[row]? = some (c.apply cells) := by
    rw [List.getElem?_modify_eq, hcells]
    rfl
  have hstart : sub c.column.toNat 1 = .ok c.start := sub_eq_ok hfirst
  have hspan : c.finish - c.start = c.payload.length := Nat.add_sub_cancel_left _ _
  have hshown : slice (c.apply cells) c.start c.finish =
      .ok (((c.apply cells).drop c.start).take c.payload.length) := by
    rw [← hspan]
    apply slice_eq_ok (Nat.le_add_right _ _)
    rw [Change.length_apply]
    exact hfinish
  rw [changeTrapping, hstart, ok_bind, item_eq_ok hcells, ok_bind,
    c.applyTrapping_eq cells hfinish hcols, ok_bind]
  simp only [hshown, ok_bind, change, changed, row?, hset, hget, Option.getD_some]
  rfl

theorem changesTrapping_eq {s : Screen} (hframed : s.Framed) (hcols : s.cols < 2 ^ 64) {row : Nat}
    (hrow : row < s.rows) {cs : List Change} (hfits : ∀ c ∈ cs, c.fits s.cols) :
    s.changesTrapping row cs = .ok (s.applyChanges row cs) := by
  induction cs generalizing s with
  | nil => rfl
  | cons c cs ih =>
    obtain ⟨hc, hcs⟩ := List.forall_mem_cons.mp hfits
    have hnext : (s.change row c).Framed := hframed.stroke ⟨row, c⟩
    have hrest := ih hnext hcols hrow hcs
    rw [changesTrapping, changeTrapping_eq hframed hcols hrow hc, ok_bind]
    simp only [hrest]
    rfl

theorem rowsTrapping_eq {s : Screen} (hframed : s.Framed) (hcols : s.cols < 2 ^ 64)
    {rs : List RowChanges}
    (hfits : ∀ r ∈ rs, 1 ≤ r.row.toNat ∧ r.row.toNat ≤ s.rows ∧ ∀ c ∈ r.changes, c.fits s.cols) :
    s.rowsTrapping rs = .ok (s.applyRows rs) := by
  induction rs generalizing s with
  | nil => rfl
  | cons r rs ih =>
    obtain ⟨⟨hfirst, hrows, hchanges⟩, hrest⟩ := List.forall_mem_cons.mp hfits
    have hline : r.row.toNat - 1 < s.rows := by omega
    have hdraw := s.applyChanges_eq_draw (r.row.toNat - 1) r.changes
    have hnext : (s.applyChanges (r.row.toNat - 1) r.changes).1.Framed := by
      rw [hdraw]
      exact hframed.draw _
    have hsize : (s.applyChanges (r.row.toNat - 1) r.changes).1.rows = s.rows ∧
        (s.applyChanges (r.row.toNat - 1) r.changes).1.cols = s.cols := by
      rw [hdraw, draw_frame]
      exact ⟨rfl, rfl⟩
    have htail := ih hnext (by rw [hsize.2]; exact hcols) (by rw [hsize.1, hsize.2]; exact hrest)
    rw [rowsTrapping, sub_eq_ok hfirst, ok_bind, changesTrapping_eq hframed hcols hline hchanges,
      ok_bind]
    simp only [htail]
    rfl

/-- An update where every sum, every difference and every place in a list may trap. -/
def updateTrapping (s : Screen) (u : ScreenUpdate) : Except Trap Attempt := do
  match ← s.validate u with
  | .error e => return ⟨s, [], .error e⟩
  | .ok () =>
    let (next, events) ← s.rowsTrapping u.rows
    let (last, more) := next.applyCursor u.cursor
    return ⟨last, events ++ more, .ok ()⟩

theorem updateTrapping_eq {s : Screen} (hframed : s.Framed) (hcols : s.cols < 2 ^ 64)
    (u : ScreenUpdate) :
    s.updateTrapping u = .ok (s.update u) := by
  rw [updateTrapping, s.validate_eq hcols, ok_bind, update]
  cases hcheck : s.check u with
  | error e => rfl
  | ok _ =>
    have hfits : s.checkRows u.rows = .ok () := by
      cases hr : s.checkRows u.rows with
      | error e =>
        rw [check, hr] at hcheck
        cases hcheck
      | ok _ => rfl
    simp only [rowsTrapping_eq hframed hcols (s.checkRows_fits u.rows hfits)]
    rfl

/-- An update is applied if all of it is inside of the screen, in sums without bound, and otherwise
refused with the first error of its message, with nothing drawn and nothing told. On a rectangular
screen none traps, whatever its counts: words of 64 bits and lists with bounds do what sums without
bound do. -/
theorem update_never_traps {s : Screen} (hframed : s.Framed) (hcols : s.cols < 2 ^ 64)
    (u : ScreenUpdate) :
    ((∃ t events, s.update u = ⟨t, events, .ok ()⟩) ↔
      (∀ r ∈ u.rows, 1 ≤ r.row.toNat ∧ r.row.toNat ≤ s.rows ∧
        ∀ c ∈ r.changes, 1 ≤ c.column.toNat ∧ c.column.toNat ≤ s.cols ∧
          c.column.toNat - 1 + c.payload.length ≤ s.cols) ∧
      ∀ row column, u.cursor = some (.enabled row column) →
        1 ≤ row.toNat ∧ row.toNat ≤ s.rows ∧ 1 ≤ column.toNat ∧ column.toNat ≤ s.cols) ∧
    (∀ e, (s.update u).result = .error e ↔ (u.violations s.rows s.cols).head? = some e) ∧
    (∀ t events, s.update u = ⟨t, events, .ok ()⟩ →
      s.updateTrapping u = .ok ⟨t, events, .ok ()⟩) ∧
    ∀ e, (s.update u).result = .error e → s.update u = ⟨s, [], .error e⟩ ∧
      s.updateTrapping u = .ok ⟨s, [], .error e⟩ ∧
      ∀ session : Session, session.screen = s →
        session.dispatch (.notice (.screen u)) = ⟨session, [], .error ⟨e⟩⟩ := by
  have hrun := updateTrapping_eq hframed hcols u
  have hok := (s.update_eq_ok_iff u).trans (u.violations_eq_nil_iff s.rows s.cols)
  refine ⟨hok, s.result_eq_error_iff u, ?_, ?_⟩
  · intro t events h
    rw [hrun, h]
  · intro e h
    have hu : s.update u = ⟨s, [], .error e⟩ :=
      (s.update_eq_error_iff u e).mpr ((s.result_eq_error_iff u e).mp h)
    refine ⟨hu, by rw [hrun, hu], fun session hscreen => ?_⟩
    subst hscreen
    simp only [Session.dispatch, Session.notify, hu]

theorem update_never_traps_huge :
    let s := create 2 4 .green .black
    let u : ScreenUpdate :=
      ⟨some (.enabled 9 9), [⟨1, [⟨1, .text "ab", none, none, none⟩]⟩,
        ⟨2, [⟨4, .count 18446744073709551615, none, none, none⟩, ⟨0, .count 1, none, none, none⟩]⟩,
        ⟨3, []⟩]⟩
    s.Framed ∧ s.cols < 2 ^ 64 ∧
      s.updateTrapping u = .ok ⟨s, [], .error (.columnOutside 2 4 18446744073709551615 4)⟩ := by
  intro s u
  have hframed : s.Framed := framed_blank 2 4 .green .black default
  have hcols : s.cols < 2 ^ 64 := by decide
  obtain ⟨-, hfirst, -, hrefused⟩ := update_never_traps hframed hcols u
  exact ⟨hframed, hcols, (hrefused _ ((hfirst _).mpr (by decide +kernel))).2.1⟩

example :
    let u : ScreenUpdate := ⟨none, [⟨1, [⟨5, .count 0, none, none, none⟩]⟩]⟩
    ((create 1 4 .green .black).update u).result = .error (.columnOutside 1 5 0 4) :=
  rfl

end Screen

end Display3270
