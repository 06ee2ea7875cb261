import Display3270.Screen.Event
import Display3270.Text.Cluster

namespace Display3270

structure Screen where
  rows : Nat
  cols : Nat
  grid : List (List Cell)
  fg : Color
  bg : Color
  cursor : Cursor
  deriving DecidableEq

inductive ScreenError
  | rowOutside (row : UInt16) (rows : Nat)
  | columnOutside (row column : UInt16) (length cols : Nat)
  | cursorOutside (row column : UInt16) (rows cols : Nat)
  deriving DecidableEq

def ScreenError.message : ScreenError → String
  | .rowOutside row rows => s!"row {row.toNat} outside screen of {rows} rows"
  | .columnOutside row column length cols =>
    s!"row {row.toNat}: span at column {column.toNat} of {length} cells exceeds {cols} columns"
  | .cursorOutside row column rows cols =>
    s!"cursor at {row.toNat},{column.toNat} outside {rows}x{cols} screen"

def Payload.length : Payload → Nat
  | .count n => n.toNat
  | .text s => (graphemes s).length

namespace Change

def start (c : Change) : Nat := c.column.toNat - 1

def finish (c : Change) : Nat := c.start + c.payload.length

def fits (c : Change) (cols : Nat) : Bool :=
  1 ≤ c.column.toNat && c.column.toNat ≤ cols && c.finish ≤ cols

def repaint (c : Change) (cell : Cell) : Cell :=
  cell.repaint c.fg c.bg (c.gr.map Rendition.ofSpec)

def brushes (c : Change) : List (Cell → Cell) :=
  match c.payload with
  | .count n => List.replicate n.toNat c.repaint
  | .text s => (graphemes s).map fun g cell => (c.repaint cell).write g

def paint : List (Cell → Cell) → List Cell → List Cell
  | f :: fs, cell :: cells => f cell :: paint fs cells
  | _, cells => cells

def apply (c : Change) (cells : List Cell) : List Cell :=
  cells.take c.start ++ paint c.brushes (cells.drop c.start)

end Change

namespace Screen

def blankGrid (rows cols : Nat) (fg bg : Color) : List (List Cell) :=
  List.replicate rows (List.replicate cols (.blank fg bg))

def create (rows cols : Nat) (fg bg : Color) : Screen :=
  ⟨rows, cols, blankGrid rows cols fg bg, fg, bg, default⟩

def row? (s : Screen) (row : Nat) : Option (List Cell) := s.grid[row]?

def cell? (s : Screen) (row col : Nat) : Option Cell := (s.row? row).bind (·[col]?)

def rowText (s : Screen) (row : Nat) : String :=
  String.join (((s.row? row).getD []).map (·.content))

def cursorCell? (s : Screen) : Option Cell :=
  (s.cursor.cell? s.rows s.cols).bind fun p => s.cell? p.1 p.2

def rowEvents (row : Nat) : List (List Cell) → List Event
  | [] => []
  | cells :: rest => .cells row 0 cells.length cells :: rowEvents (row + 1) rest

def redraw (s : Screen) : List Event :=
  rowEvents 0 s.grid ++ [.cursor s.cursor]

def resize (s : Screen) (rows cols : Nat) : Screen :=
  ⟨rows, cols, blankGrid rows cols s.fg s.bg, s.fg, s.bg, s.cursor⟩

def setCursor (s : Screen) (cursor : Cursor) : Screen :=
  ⟨s.rows, s.cols, s.grid, s.fg, s.bg, cursor⟩

def erase (s : Screen) (e : Erase) : Screen :=
  let recolored : Screen :=
    ⟨s.rows, s.cols, s.grid, e.fg.getD s.fg, e.bg.getD s.bg, s.cursor⟩
  recolored.resize ((e.rows.map UInt16.toNat).getD s.rows) ((e.cols.map UInt16.toNat).getD s.cols)

def checkChanges (s : Screen) (row : UInt16) : List Change → Except ScreenError Unit
  | [] => .ok ()
  | c :: cs =>
    if c.fits s.cols then checkChanges s row cs
    else .error (.columnOutside row c.column c.payload.length s.cols)

def checkRows (s : Screen) : List RowChanges → Except ScreenError Unit
  | [] => .ok ()
  | r :: rs =>
    if r.row.toNat = 0 ∨ s.rows < r.row.toNat then .error (.rowOutside r.row s.rows)
    else do
      checkChanges s r.row r.changes
      checkRows s rs

def checkCursor (s : Screen) : Option Cursor → Except ScreenError Unit
  | some (.enabled row column) =>
    match (Cursor.enabled row column).cell? s.rows s.cols with
    | some _ => .ok ()
    | none => .error (.cursorOutside row column s.rows s.cols)
  | _ => .ok ()

def check (s : Screen) (u : ScreenUpdate) : Except ScreenError Unit := do
  checkRows s u.rows
  checkCursor s u.cursor

def change (s : Screen) (row : Nat) (c : Change) : Screen :=
  ⟨s.rows, s.cols, s.grid.modify row c.apply, s.fg, s.bg, s.cursor⟩

def changed (s : Screen) (row : Nat) (c : Change) : Event :=
  .cells row c.start c.finish ((((s.row? row).getD []).drop c.start).take c.payload.length)

def applyChanges (s : Screen) (row : Nat) : List Change → Screen × List Event
  | [] => (s, [])
  | c :: cs =>
    let next := s.change row c
    let (last, events) := applyChanges next row cs
    (last, next.changed row c :: events)

def applyRows (s : Screen) : List RowChanges → Screen × List Event
  | [] => (s, [])
  | r :: rs =>
    let (next, events) := s.applyChanges (r.row.toNat - 1) r.changes
    let (last, more) := applyRows next rs
    (last, events ++ more)

def applyCursor (s : Screen) : Option Cursor → Screen × List Event
  | none => (s, [])
  | some cursor => (s.setCursor cursor, [.cursor cursor])

structure Attempt where
  screen : Screen
  events : List Event
  result : Except ScreenError Unit

/-- Checks all of an update before it applies any of it, in its order. -/
def update (s : Screen) (u : ScreenUpdate) : Attempt :=
  match s.check u with
  | .error e => ⟨s, [], .error e⟩
  | .ok () =>
    let (next, events) := s.applyRows u.rows
    let (last, more) := next.applyCursor u.cursor
    ⟨last, events ++ more, .ok ()⟩

end Screen

end Display3270
