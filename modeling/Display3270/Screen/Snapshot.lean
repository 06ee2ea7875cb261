import Display3270.Screen.Basic
import Display3270.Screen.StatusLine
import Display3270.Json.Printer

namespace Display3270

open Record (required)
open Reader

structure CellSnapshot where
  content : String
  fg : Color
  bg : Color
  gr : String
  deriving DecidableEq

structure Snapshot where
  rows : Nat
  cols : Nat
  grid : List (List CellSnapshot)
  cursor : Cursor
  status : List (String × String)
  statusLine : String
  deriving DecidableEq

namespace CellSnapshot

def ofCell (c : Cell) : CellSnapshot := ⟨c.content, c.fg, c.bg, c.gr.text⟩

def json (c : CellSnapshot) : Json :=
  .obj [("content", .str c.content), ("fg", c.fg.json), ("bg", c.bg.json), ("gr", .str c.gr)]

def reader : Reader CellSnapshot :=
  (mk <$> required "content" string <*> required "fg" Color.reader <*>
    required "bg" Color.reader <*> required "gr" string).reader

end CellSnapshot

namespace Snapshot

def capture (screen : Screen) (status : StatusLine) : Snapshot :=
  ⟨screen.rows, screen.cols,
    (List.range screen.rows).map fun row => ((screen.row? row).getD []).map .ofCell,
    screen.cursor, sortEntries (StatusField.all.map fun f => (f.name, status.get f)), status.line⟩

def json (s : Snapshot) : Json :=
  .obj [("rows", .natural s.rows), ("cols", .natural s.cols),
    ("grid", .arr (s.grid.map fun cells => .arr (cells.map CellSnapshot.json))),
    ("cursor", s.cursor.json), ("status", .obj (s.status.map fun t => (t.1, .str t.2))),
    ("status_line", .str s.statusLine)]

def text (s : Snapshot) : String := s.json.indented

def reader : Reader Snapshot :=
  (mk <$> required "rows" (natural 64) <*> required "cols" (natural 64) <*>
    required "grid" (list (list CellSnapshot.reader)) <*> required "cursor" Cursor.reader <*>
    required "status" ((members string).map sortEntries) <*>
    required "status_line" string).reader

def ofText (text : String) : Except Cause Snapshot :=
  reader.ofText text

def addRow (shown : List Char) (cells : List CellSnapshot) : List Char :=
  '\n' :: ((cells.flatMap fun c => c.content.toList).reverse ++ shown).dropWhile (· == ' ')

def oneLineFeed : List Char → List Char
  | '\n' :: '\n' :: cs => oneLineFeed ('\n' :: cs)
  | cs => cs

def plain (s : Snapshot) : String :=
  let rows := (oneLineFeed (s.grid.foldl addRow [])).reverse
  let status := trimEnd s.statusLine.toList
  String.ofList (if status.isEmpty then rows else rows ++ status ++ ['\n'])

def sameContent (a b : Snapshot) : Bool :=
  a.rows == b.rows && a.cols == b.cols && a.cursor == b.cursor && a.grid == b.grid

end Snapshot

end Display3270
