import Display3270.Indication.Basic
import Display3270.Screen.Cell
import Display3270.Screen.StatusField

namespace Display3270

/-- What a view is told. Rows and columns count from zero, and `finish` is the first column that
did not change. -/
inductive Event
  | cells (row start finish : Nat) (cells : List Cell)
  | cursor (cursor : Cursor)
  | status (field : StatusField) (text : String)
  | attach
  | detach
  | passthrough (notice : Notice)
  deriving DecidableEq

namespace Event

def touched : Event → Nat
  | .cells _ start finish _ => finish - start
  | _ => 0

end Event

end Display3270
