import Display3270.Backoff
import Display3270.Session
import Display3270.Text.Lines

namespace Display3270

open Record (optional defaulted)
open Reader

structure ReconnectConfig where
  initialSecs : Double
  factor : Double
  maxSecs : Double
  delay : DelayPolicy
  deriving DecidableEq

structure ScreenConfig where
  foreground : Color
  background : Color
  rows : UInt16
  columns : UInt16
  deriving DecidableEq

structure Config where
  host : String
  reconnect : ReconnectConfig
  screen : ScreenConfig
  traceFile : Option String
  logFilter : Option String
  deriving DecidableEq

namespace DelayPolicy

def name : DelayPolicy → String
  | .backoff => "backoff"
  | .constant => "constant"

def reader : Reader DelayPolicy :=
  named [("backoff", .backoff), ("constant", .constant)] none

end DelayPolicy

namespace ReconnectConfig

def initial : ReconnectConfig := ⟨1, 3 / 2, 30, .backoff⟩

def record : Record ReconnectConfig :=
  mk <$> defaulted "initial_secs" double initial.initialSecs <*>
    defaulted "factor" double initial.factor <*> defaulted "max_secs" double initial.maxSecs <*>
    defaulted "delay" DelayPolicy.reader initial.delay

def reader : Reader ReconnectConfig := record.reader

def json (c : ReconnectConfig) : Json :=
  .obj [("initial_secs", .double c.initialSecs), ("factor", .double c.factor),
    ("max_secs", .double c.maxSecs), ("delay", .str c.delay.name)]

def backoff (c : ReconnectConfig) : Backoff Double :=
  .create c.initialSecs c.factor c.maxSecs c.delay

end ReconnectConfig

namespace ScreenConfig

def initial : ScreenConfig := ⟨.defaultForeground, .defaultBackground, 24, 80⟩

def record : Record ScreenConfig :=
  mk <$> defaulted "foreground" Color.reader initial.foreground <*>
    defaulted "background" Color.reader initial.background <*>
    defaulted "rows" uint16 initial.rows <*> defaulted "columns" uint16 initial.columns

def reader : Reader ScreenConfig := record.reader

def json (c : ScreenConfig) : Json :=
  .obj [("foreground", c.foreground.json), ("background", c.background.json),
    ("rows", .word c.rows), ("columns", .word c.columns)]

def session (c : ScreenConfig) : Session :=
  .create c.rows.toNat c.columns.toNat c.foreground c.background

end ScreenConfig

inductive ConfigError
  | noFile
  | noText
  | notJson (cause : Cause)
  deriving DecidableEq

def ConfigError.message : ConfigError → String
  | .noFile => "IO error: NotFound"
  | .noText => "IO error: InvalidData"
  | .notJson cause => "JSON error: " ++ cause.message

namespace Config

def initial : Config := ⟨"127.0.0.1:3270", .initial, .initial, none, none⟩

def record : Record Config :=
  mk <$> defaulted "host" string initial.host <*>
    defaulted "reconnect" ReconnectConfig.reader initial.reconnect <*>
    defaulted "screen" ScreenConfig.reader initial.screen <*>
    optional "trace_file" string <*> optional "log_filter" string

def reader : Reader Config := record.reader

def json (c : Config) : Json :=
  .obj ([("host", .str c.host), ("reconnect", c.reconnect.json), ("screen", c.screen.json)] ++
    Json.member? "trace_file" .str c.traceFile ++ Json.member? "log_filter" .str c.logFilter)

def text (c : Config) : String := c.json.indented

def load : Option Content → Except ConfigError Config
  | none => .error .noFile
  | some content =>
    match content.text? with
    | none => .error .noText
    | some text =>
      match reader.ofText text with
      | .ok c => .ok c
      | .error cause => .error (.notJson cause)

def loadOrInitial (file : Option Content) : Config :=
  match load file with
  | .ok c => c
  | .error _ => initial

def pathParts : List String := [".config", "term3270", "config.json"]

def path? (home : Option String) : Option String :=
  home.map fun h => "/".intercalate (h :: pathParts)

end Config

end Display3270
