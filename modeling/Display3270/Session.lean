import Display3270.Indication.Writer
import Display3270.Screen.Snapshot

namespace Display3270

structure Session where
  screen : Screen
  status : StatusLine
  connection : Option Connection
  screenMode : Option ScreenMode
  deriving DecidableEq

structure DispatchError where
  cause : ScreenError
  deriving DecidableEq

def DispatchError.tag (_ : DispatchError) : String := "screen"

def DispatchError.message (e : DispatchError) : String :=
  "'" ++ e.tag ++ "' indication rejected: " ++ e.cause.message

inductive ProcessError
  | decode (e : DecodeError)
  | dispatch (e : DispatchError)
  deriving DecidableEq

structure Outcome (ε : Type) where
  session : Session
  events : List Event
  result : Except ε Unit

namespace Session

def create (rows cols : Nat) (fg bg : Color) : Session :=
  ⟨.create rows cols fg bg, .initial, none, none⟩

instance : Inhabited Session := ⟨create 24 80 .defaultForeground .defaultBackground⟩

def snapshot (s : Session) : Snapshot := .capture s.screen s.status

def setTexts (s : Session) (texts : List (StatusField × String)) : Session × List Event :=
  (⟨s.screen, s.status.apply texts, s.connection, s.screenMode⟩, StatusLine.events texts)

def notify (s : Session) : Notice → Outcome DispatchError
  | .screenMode mode =>
    let screen := s.screen.resize mode.rows.toNat mode.columns.toNat
    ⟨⟨screen, s.status, s.connection, some mode⟩, screen.redraw, .ok ()⟩
  | .screen update =>
    let done := s.screen.update update
    match done.result with
    | .error e =>
      ⟨⟨done.screen, s.status, s.connection, s.screenMode⟩, done.events, .error ⟨e⟩⟩
    | .ok () =>
      let texts := (update.cursor.map Cursor.texts).getD []
      ⟨⟨done.screen, s.status.apply texts, s.connection, s.screenMode⟩,
        done.events ++ StatusLine.events texts, .ok ()⟩
  | .erase erase =>
    let screen := s.screen.erase erase
    ⟨⟨screen, s.status, s.connection, s.screenMode⟩, screen.redraw, .ok ()⟩
  | .connection connection =>
    let texts := connection.state.texts
    ⟨⟨s.screen, s.status.apply texts, some connection, s.screenMode⟩, StatusLine.events texts,
      .ok ()⟩
  | .oia field => ⟨(s.setTexts field.texts).1, (s.setTexts field.texts).2, .ok ()⟩
  | notice => ⟨s, [.passthrough notice], .ok ()⟩

mutual

def dispatch (s : Session) : Indication → Outcome DispatchError
  | .notice n => s.notify n
  | .batch members => dispatchAll s members

def dispatchAll (s : Session) : List Indication → Outcome DispatchError
  | [] => ⟨s, [], .ok ()⟩
  | i :: is =>
    let first := s.dispatch i
    match first.result with
    | .error e => ⟨first.session, first.events, .error e⟩
    | .ok () =>
      let rest := dispatchAll first.session is
      ⟨rest.session, first.events ++ rest.events, rest.result⟩

end

def process (s : Session) (text : String) : Outcome ProcessError :=
  match Indication.decode text with
  | .error e => ⟨s, [], .error (.decode e)⟩
  | .ok i =>
    let done := s.dispatch i
    ⟨done.session, done.events, done.result.mapError .dispatch⟩

end Session

end Display3270
