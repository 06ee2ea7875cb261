import Display3270.Indication.Basic

namespace Display3270

open Record (required optional defaulted)
open Reader

namespace ActionCause

def names : List (String × ActionCause) :=
  [("command", .command), ("default", .default), ("file-transfer", .fileTransfer),
    ("httpd", .httpd), ("idle", .idle), ("keymap", .keymap), ("macro", .macroRun),
    ("none", .none), ("password", .password), ("paste", .paste), ("peek", .peek),
    ("screen-redraw", .screenRedraw), ("script", .script), ("typeahead", .typeahead), ("ui", .ui)]

def reader : Reader ActionCause := named names (some .unknown)

end ActionCause

namespace ConnectionState

def names : List (String × ConnectionState) :=
  [("not-connected", .notConnected), ("reconnecting", .reconnecting), ("resolving", .resolving),
    ("tcp-pending", .tcpPending), ("tls-pending", .tlsPending),
    ("telnet-pending", .telnetPending), ("connected-nvt", .connectedNvt),
    ("connected-nvt-charmode", .connectedNvtCharmode), ("connected-3270", .connected3270),
    ("connected-unbound", .connectedUnbound), ("connected-e-nvt", .connectedENvt),
    ("connected-sscp", .connectedSscp), ("connected-tn3270e", .connectedTn3270e)]

def reader : Reader ConnectionState := named names (some .unknown)

end ConnectionState

def Connection.reader : Reader Connection :=
  (Connection.mk <$> required "state" ConnectionState.reader <*> optional "host" string <*>
    optional "cause" ActionCause.reader).reader

def ConnectAttempt.reader : Reader ConnectAttempt :=
  (ConnectAttempt.mk <$> required "host-ip" string <*> required "port" string).reader

def CodePage.reader : Reader CodePage :=
  (CodePage.mk <$> required "name" string <*> defaulted "aliases" (list string) []).reader

def Erase.reader : Reader Erase :=
  (Erase.mk <$> optional "logical-rows" uint16 <*> optional "logical-cols" uint16 <*>
    optional "fg" Color.reader <*> optional "bg" Color.reader).reader

def Hello.reader : Reader Hello :=
  (Hello.mk <$> required "version" string <*> required "build" string <*>
    required "copyright" string).reader

def Model.reader : Reader Model :=
  (Model.mk <$> required "model" uint8 <*> required "rows" uint16 <*>
    required "columns" uint16).reader

namespace OiaField

def composeTypes : List (String × ComposeType) := [("std", .std), ("ge", .ge)]

def record : String → Record OiaField
  | "compose" =>
    .compose <$> required "value" bool <*> optional "char" string <*>
      optional "type" (named composeTypes none)
  | "insert" => .insert <$> required "value" bool
  | "lock" => .lock <$> optional "value" string
  | "lu" => .lu <$> required "value" string <*> optional "lu" string
  | "not-undera" => .notUndera <$> required "value" bool
  | "reverse-input" => .reverseInput <$> required "value" bool
  | "screen-trace" => .screenTrace <$> optional "value" uint64
  | "script" => .script <$> required "value" bool
  | "timing" => .timing <$> optional "value" string
  | "typeahead" => .typeahead <$> required "value" bool
  | _ => pure .unknown

def tagField : String := "field"

/-- The tag stands among the members of an object, or first in an array. -/
def reader : Reader OiaField
  | o, .obj ms f =>
    match Record.findMember ms tagField with
    | none => .error (.missingField tagField)
    | some d => do
      let tag ← string o d
      (record tag).readObject .buffer ms f
  | _, .arr [] _ => .error (.missingField tagField)
  | o, .arr (d :: ds) f => do
    let tag ← string o d
    (record tag).readArray .buffer ds f
  | _, d => .error (mismatch d)

end OiaField

def Proxy.reader : Reader Proxy :=
  (Proxy.mk <$> required "name" string <*> required "username" bool <*>
    optional "port" uint16).reader

def Setting.reader : Reader Setting :=
  (Setting.mk <$> required "name" string <*> optional "value" json <*>
    optional "cause" ActionCause.reader).reader

def ScreenMode.reader : Reader ScreenMode :=
  (ScreenMode.mk <$> required "model" uint8 <*> required "rows" uint16 <*>
    required "columns" uint16 <*> defaulted "color" bool false <*>
    defaulted "oversize" bool false <*> defaulted "extended" bool false).reader

def TlsHello.reader : Reader TlsHello :=
  (TlsHello.mk <$> required "supported" bool <*> defaulted "provider" string "" <*>
    defaulted "options" (list string) []).reader

def Tls.reader : Reader Tls :=
  (Tls.mk <$> required "secure" bool <*> optional "verified" bool <*>
    optional "session" string <*> optional "host-cert" string).reader

namespace FileTransferState

def tagField : String := "state"

def names : List String := ["awaiting", "running", "aborting", "complete"]

/-- A state is given by its name or by its place among the names. -/
def nameOf : Draft → Except Cause String
  | .str s => .ok s
  | .num (.int n) =>
    if n < 0 then .error .wrongType
    else match names[n.toNat]? with
      | some name => .ok name
      | none => .error .wrongValue
  | d => .error (mismatch d)

def record? : String → Option (Record FileTransferState)
  | "awaiting" => some (pure .awaiting)
  | "running" => some (.running <$> required "bytes" uint64)
  | "aborting" => some (pure .aborting)
  | "complete" => some (.complete <$> required "text" string <*> required "success" bool)
  | _ => none

def read (ms : List (Option String × Draft)) : Except Cause FileTransferState :=
  match Record.findMember ms tagField with
  | none => .error (.missingField tagField)
  | some d => do
    let name ← nameOf d
    match record? name with
    | none => throw .unknownVariant
    | some r => r.readObject .buffer ms none

end FileTransferState

def FileTransfer.reader : Reader FileTransfer
  | o, .obj ms f => do
    let cause ← (required "cause" ActionCause.reader).readObject o ms f
    let state ← FileTransferState.read ms
    return ⟨state, cause⟩
  | _, d => .error (mismatch d)

def Passthru.reader : Reader Passthru :=
  (Passthru.mk <$> required "p-tag" string <*> optional "parent-r-tag" string <*>
    required "action" string <*> defaulted "args" (list string) []).reader

def PopupType.names : List (String × PopupType) :=
  [("connect-error", .connectError), ("error", .error), ("info", .info), ("result", .result),
    ("printer", .printer), ("child", .child)]

def Popup.reader : Reader Popup :=
  (Popup.mk <$> required "type" (named PopupType.names none) <*> required "text" string <*>
    optional "error" json).reader

/-- A change holds a count or a text; of both, the one that stands first counts. -/
def Payload.read : List (Option String × Draft) → Except Cause Payload
  | [] => .error .noPayload
  | (k, d) :: ms =>
    if k = some "count" then (uint64 .buffer d).map .count
    else if k = some "text" then (string .buffer d).map .text
    else read ms

namespace Change

def record : Record (Payload → Change) :=
  (fun column fg bg gr payload => ⟨column, payload, fg, bg, gr⟩) <$> required "column" uint16 <*>
    optional "fg" Color.reader <*> optional "bg" Color.reader <*> optional "gr" string

def reader : Reader Change
  | o, .obj ms f => do
    let build ← record.readObject o ms f
    let payload ← Payload.read ms
    return build payload
  | _, d => .error (mismatch d)

end Change

def RowChanges.reader : Reader RowChanges :=
  (RowChanges.mk <$> required "row" uint16 <*> required "changes" (list Change.reader)).reader

def ScreenUpdate.reader : Reader ScreenUpdate :=
  (ScreenUpdate.mk <$> optional "cursor" Cursor.reader <*>
    defaulted "rows" (list RowChanges.reader) []).reader

def RunResult.reader : Reader RunResult :=
  (RunResult.mk <$> optional "r-tag" string <*> required "success" bool <*>
    defaulted "text" (list string) [] <*> optional "abort" bool <*>
    required "time" double).reader

def Scroll.reader : Reader Scroll :=
  (Scroll.mk <$> optional "fg" Color.reader <*> optional "bg" Color.reader).reader

def Stats.reader : Reader Stats :=
  (Stats.mk <$> required "bytes-received" uint64 <*> required "bytes-sent" uint64 <*>
    required "records-received" uint64 <*> required "records-sent" uint64).reader

def TerminalName.reader : Reader TerminalName :=
  (TerminalName.mk <$> required "text" string <*> required "override" bool).reader

def Thumb.reader : Reader Thumb :=
  (Thumb.mk <$> required "top" single <*> required "shown" single <*>
    required "saved" uint64 <*> required "screen" uint64 <*> required "back" uint64).reader

def TraceFile.reader : Reader TraceFile :=
  (TraceFile.mk <$> optional "name" string).reader

def UiError.reader : Reader UiError :=
  (UiError.mk <$> required "fatal" bool <*> required "text" string <*>
    optional "operation" string <*> optional "member" string <*> optional "line" uint64 <*>
    optional "column" uint64).reader

namespace Notice

def readers : List (String × Reader Notice) :=
  [("bell", (pure .bell : Record Notice).objectReader),
    ("code-pages", (list CodePage.reader).map .codePages),
    ("connect-attempt", ConnectAttempt.reader.map .connectAttempt),
    ("connection", Connection.reader.map .connection),
    ("erase", Erase.reader.map .erase),
    ("flipped", (flipped <$> required "value" bool).objectReader),
    ("font", (font <$> required "text" string).objectReader),
    ("formatted", (formatted <$> required "state" bool).objectReader),
    ("ft", FileTransfer.reader.map .fileTransfer),
    ("hello", Hello.reader.map .hello),
    ("icon", (icon <$> required "text" string).objectReader),
    ("models", (list Model.reader).map .models),
    ("oia", OiaField.reader.map .oia),
    ("passthru", Passthru.reader.map .passthru),
    ("popup", Popup.reader.map .popup),
    ("prefixes", (prefixes <$> required "value" string).objectReader),
    ("proxies", (list Proxy.reader).map .proxies),
    ("run-result", RunResult.reader.map .runResult),
    ("screen", ScreenUpdate.reader.map .screen),
    ("screen-mode", ScreenMode.reader.map .screenMode),
    ("scroll", Scroll.reader.map .scroll),
    ("setting", Setting.reader.map .setting),
    ("stats", Stats.reader.map .stats),
    ("terminal-name", TerminalName.reader.map .terminalName),
    ("thumb", Thumb.reader.map .thumb),
    ("tls", Tls.reader.map .tls),
    ("tls-hello", TlsHello.reader.map .tlsHello),
    ("trace-file", TraceFile.reader.map .traceFile),
    ("ui-error", UiError.reader.map .uiError),
    ("window-title", (windowTitle <$> required "text" string).objectReader)]

end Notice

inductive DecodeError
  | notJson (cause : Cause)
  | untagged
  | malformed (tag : String) (cause : Cause)
  deriving DecidableEq

namespace DecodeError

def message : DecodeError → String
  | .notJson cause => "message is not valid JSON: " ++ cause.message
  | .untagged => untaggedMessage
  | .malformed tag cause => malformedMessage tag cause.message

def asCause : DecodeError → Cause
  | .notJson cause => cause
  | .untagged => .untagged
  | .malformed tag cause => .malformed tag cause

end DecodeError

namespace Indication

def readNotice (tag : String) (body : Json) : Except DecodeError Indication :=
  if tag ∈ knownTags then
    match Notice.readers.lookup tag with
    | none => .error (.malformed tag .unknownVariant)
    | some r =>
      match r .value (Draft.ofJson body) with
      | .ok n => .ok (.notice n)
      | .error cause => .error (.malformed tag cause)
  else .ok (.notice (.other tag body))

mutual

def ofJson : Json → Except DecodeError Indication
  | .obj [(tag, .arr items)] =>
    if tag = batchTag then
      match ofItems items with
      | .ok members => .ok (.batch members)
      | .error e => .error (.malformed tag e.asCause)
    else readNotice tag (.arr items)
  | .obj [(tag, body)] =>
    if tag = batchTag then .error (.malformed tag .wrongType) else readNotice tag body
  | _ => .error .untagged

def ofItems : List Json → Except DecodeError (List Indication)
  | [] => .ok []
  | x :: xs =>
    match ofJson x with
    | .error e => .error e
    | .ok i =>
      match ofItems xs with
      | .error e => .error e
      | .ok is => .ok (i :: is)

end

def decode (text : String) : Except DecodeError Indication :=
  match Json.parse text with
  | .error cause => .error (.notJson cause)
  | .ok j => ofJson j

end Indication

end Display3270
