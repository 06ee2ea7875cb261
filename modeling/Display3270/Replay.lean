import Display3270.Session
import Display3270.Text.Lines

namespace Display3270

inductive ReplayEntry
  | skipped (line : Nat) (error : DecodeError)
  | rejected (line : Nat) (error : DispatchError)
  deriving DecidableEq

structure Replay where
  session : Session
  entries : List ReplayEntry
  complete : Bool
  deriving DecidableEq

namespace Replay

def entries? (line : Nat) : Except ProcessError Unit → List ReplayEntry
  | .ok () => []
  | .error (.decode e) => [.skipped line e]
  | .error (.dispatch e) => [.rejected line e]

def run (session : Session) (line : Nat) : List Content → Replay
  | [] => ⟨session, [], true⟩
  | content :: rest =>
    match content.text? with
    | none => ⟨session, [], false⟩
    | some text =>
      if text.toList.all isBlank then run session (line + 1) rest
      else
        let done := session.process text
        let next := run done.session (line + 1) rest
        ⟨next.session, entries? line done.result ++ next.entries, next.complete⟩

def ofTrace (session : Session) (trace : Content) : Replay :=
  run session 1 trace.lines

end Replay

end Display3270
