import Display3270.Client
import Display3270.Config
import Display3270.LogFilter.Basic
import Display3270.Replay

namespace Display3270

inductive LogEntry
  | replay (entry : ReplayEntry)
  | attemptFailed
  | keyDropped (press : KeyPress)
  | inputUnreadable

namespace LogEntry

def origin : LogEntry → LogOrigin
  | .replay (.skipped _ _) => ⟨"term3270", .warn, ["message", "line", "error"]⟩
  | .replay (.rejected _ _) => ⟨"term3270", .error, ["message", "line", "error"]⟩
  | .attemptFailed => ⟨"term3270::connection::driver", .warn, ["message", "addr", "error"]⟩
  | .keyDropped _ => ⟨"term3270::connection::driver", .debug, ["message", "msg"]⟩
  | .inputUnreadable => ⟨"term3270", .warn, ["message", "error"]⟩

end LogEntry

inductive ConfigSource
  | named (file : Option Content)
  | home (file : Option Content)

def ConfigSource.load : ConfigSource → Except ConfigError Config
  | .named file => Config.load file
  | .home file => .ok (Config.loadOrInitial file)

inductive CommandError
  | config (error : ConfigError)
  | noFile
  | noText
  deriving DecidableEq

def CommandError.message : CommandError → String
  | .config e => e.message
  | .noFile => "NotFound"
  | .noText => "InvalidData"

structure CommandResult where
  stdout : String
  log : List LogEntry
  error : Option CommandError

namespace CommandResult

def failed (e : CommandError) : CommandResult := ⟨"", [], some e⟩

def exitCode (r : CommandResult) : Nat := if r.error.isSome then 1 else 0

end CommandResult

namespace Config

def filter (c : Config) : LogFilter := .ofText (c.logFilter.getD "warn")

def letThrough (c : Config) (entries : List LogEntry) : List LogEntry :=
  entries.filter fun e => c.filter.lets e.origin

end Config

def replayCommand (source : ConfigSource) (trace : Option Content) (asJson : Bool) :
    CommandResult :=
  match source.load with
  | .error e => .failed (.config e)
  | .ok config =>
    match trace with
    | none => .failed .noFile
    | some content =>
      let replay := Replay.ofTrace config.screen.session content
      let log := config.letThrough (replay.entries.map .replay)
      let snapshot := replay.session.snapshot
      if replay.complete then ⟨if asJson then snapshot.text ++ "\n" else snapshot.plain, log, none⟩
      else ⟨"", log, some .noText⟩

def typedKeys : List Content → List KeyPress × Bool
  | [] => ([], true)
  | line :: lines =>
    match line.text? with
    | none => ([], false)
    | some text =>
      let (presses, readable) := typedKeys lines
      (typeLine text ++ presses, readable)

/-- Tries to reach a host that does not answer until the input ends; what is typed meanwhile is
dropped. `opens` tells whether a trace file can be opened. -/
def connectCommand (source : ConfigSource) (opens : String → Bool) (stdin : Content) :
    CommandResult :=
  match source.load with
  | .error e => .failed (.config e)
  | .ok config =>
    if (config.traceFile.map opens).getD true then
      let (presses, readable) := typedKeys stdin.lines
      let entries := .attemptFailed :: presses.map .keyDropped ++
        if readable then [] else [.inputUnreadable]
      ⟨"", config.letThrough entries, none⟩
    else .failed .noFile

end Display3270
