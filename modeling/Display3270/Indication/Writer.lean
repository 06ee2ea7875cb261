import Display3270.Indication.Reader
import Display3270.Json.Printer

namespace Display3270

def Json.word (n : UInt16) : Json := .natural n.toNat

def Json.longWord (n : UInt64) : Json := .natural n.toNat

open Json (member? natural word longWord)

def ActionCause.name : ActionCause → String
  | .command => "command"
  | .default => "default"
  | .fileTransfer => "file-transfer"
  | .httpd => "httpd"
  | .idle => "idle"
  | .keymap => "keymap"
  | .macroRun => "macro"
  | .none => "none"
  | .password => "password"
  | .paste => "paste"
  | .peek => "peek"
  | .screenRedraw => "screen-redraw"
  | .script => "script"
  | .typeahead => "typeahead"
  | .ui => "ui"
  | .unknown => "unknown"

def ActionCause.json (c : ActionCause) : Json := .str c.name

def ConnectionState.name : ConnectionState → String
  | .notConnected => "not-connected"
  | .reconnecting => "reconnecting"
  | .resolving => "resolving"
  | .tcpPending => "tcp-pending"
  | .tlsPending => "tls-pending"
  | .telnetPending => "telnet-pending"
  | .connectedNvt => "connected-nvt"
  | .connectedNvtCharmode => "connected-nvt-charmode"
  | .connected3270 => "connected-3270"
  | .connectedUnbound => "connected-unbound"
  | .connectedENvt => "connected-e-nvt"
  | .connectedSscp => "connected-sscp"
  | .connectedTn3270e => "connected-tn3270e"
  | .unknown => "unknown"

def Connection.json (c : Connection) : Json :=
  .obj ([("state", .str c.state.name)] ++ member? "host" .str c.host ++
    member? "cause" ActionCause.json c.cause)

def ConnectAttempt.json (a : ConnectAttempt) : Json :=
  .obj [("host-ip", .str a.hostIp), ("port", .str a.port)]

def CodePage.json (p : CodePage) : Json :=
  .obj ([("name", .str p.name)] ++ Json.items? "aliases" .str p.aliases)

def Erase.json (e : Erase) : Json :=
  .obj (member? "logical-rows" word e.rows ++ member? "logical-cols" word e.cols ++
    member? "fg" Color.json e.fg ++ member? "bg" Color.json e.bg)

def Hello.json (h : Hello) : Json :=
  .obj [("version", .str h.version), ("build", .str h.build), ("copyright", .str h.copyright)]

def Model.json (m : Model) : Json :=
  .obj [("model", natural m.model.toNat), ("rows", word m.rows), ("columns", word m.columns)]

def ComposeType.json : ComposeType → Json
  | .std => .str "std"
  | .ge => .str "ge"

def OiaField.members : OiaField → List (String × Json)
  | .compose value char type =>
    [("field", .str "compose"), ("value", .bool value)] ++ member? "char" .str char ++
      member? "type" ComposeType.json type
  | .insert value => [("field", .str "insert"), ("value", .bool value)]
  | .lock value => [("field", .str "lock")] ++ member? "value" .str value
  | .lu value printer =>
    [("field", .str "lu"), ("value", .str value)] ++ member? "lu" .str printer
  | .notUndera value => [("field", .str "not-undera"), ("value", .bool value)]
  | .reverseInput value => [("field", .str "reverse-input"), ("value", .bool value)]
  | .screenTrace value => [("field", .str "screen-trace")] ++ member? "value" longWord value
  | .script value => [("field", .str "script"), ("value", .bool value)]
  | .timing value => [("field", .str "timing")] ++ member? "value" .str value
  | .typeahead value => [("field", .str "typeahead"), ("value", .bool value)]
  | .unknown => [("field", .str "unknown")]

def OiaField.json (f : OiaField) : Json := .obj f.members

def Proxy.json (p : Proxy) : Json :=
  .obj ([("name", .str p.name), ("username", .bool p.username)] ++ member? "port" word p.port)

def Setting.json (s : Setting) : Json :=
  .obj ([("name", .str s.name), ("value", s.value.getD .null)] ++
    member? "cause" ActionCause.json s.cause)

def ScreenMode.json (m : ScreenMode) : Json :=
  .obj [("model", natural m.model.toNat), ("rows", word m.rows), ("columns", word m.columns),
    ("color", .bool m.color), ("oversize", .bool m.oversize), ("extended", .bool m.extended)]

def TlsHello.json (h : TlsHello) : Json :=
  .obj ([("supported", .bool h.supported), ("provider", .str h.provider)] ++
    Json.items? "options" .str h.options)

def Tls.json (t : Tls) : Json :=
  .obj ([("secure", .bool t.secure)] ++ member? "verified" .bool t.verified ++
    member? "session" .str t.session ++ member? "host-cert" .str t.hostCert)

def FileTransferState.members : FileTransferState → List (String × Json)
  | .awaiting => [("state", .str "awaiting")]
  | .running bytes => [("state", .str "running"), ("bytes", longWord bytes)]
  | .aborting => [("state", .str "aborting")]
  | .complete text success =>
    [("state", .str "complete"), ("text", .str text), ("success", .bool success)]

def FileTransfer.json (t : FileTransfer) : Json :=
  .obj (t.state.members ++ [("cause", t.cause.json)])

def Passthru.json (p : Passthru) : Json :=
  .obj ([("p-tag", .str p.pTag)] ++ member? "parent-r-tag" .str p.parentRTag ++
    [("action", .str p.action)] ++ Json.items? "args" .str p.args)

def PopupType.name : PopupType → String
  | .connectError => "connect-error"
  | .error => "error"
  | .info => "info"
  | .result => "result"
  | .printer => "printer"
  | .child => "child"

def Popup.json (p : Popup) : Json :=
  .obj ([("type", .str p.type.name), ("text", .str p.text)] ++ member? "error" id p.error)

def Payload.member : Payload → String × Json
  | .count n => ("count", longWord n)
  | .text s => ("text", .str s)

def Change.json (c : Change) : Json :=
  .obj ([("column", word c.column), c.payload.member] ++ member? "fg" Color.json c.fg ++
    member? "bg" Color.json c.bg ++ member? "gr" .str c.gr)

def RowChanges.json (r : RowChanges) : Json :=
  .obj [("row", word r.row), ("changes", .arr (r.changes.map Change.json))]

def ScreenUpdate.json (u : ScreenUpdate) : Json :=
  .obj (member? "cursor" Cursor.json u.cursor ++ Json.items? "rows" RowChanges.json u.rows)

def RunResult.json (r : RunResult) : Json :=
  .obj (member? "r-tag" .str r.rTag ++ [("success", .bool r.success)] ++
    Json.items? "text" .str r.text ++ member? "abort" .bool r.abort ++
    [("time", .double r.time)])

def Scroll.json (s : Scroll) : Json :=
  .obj (member? "fg" Color.json s.fg ++ member? "bg" Color.json s.bg)

def Stats.json (s : Stats) : Json :=
  .obj [("bytes-received", longWord s.bytesReceived), ("bytes-sent", longWord s.bytesSent),
    ("records-received", longWord s.recordsReceived), ("records-sent", longWord s.recordsSent)]

def TerminalName.json (n : TerminalName) : Json :=
  .obj [("text", .str n.text), ("override", .bool n.override)]

def Thumb.json (t : Thumb) : Json :=
  .obj [("top", .single t.top), ("shown", .single t.shown), ("saved", longWord t.saved),
    ("screen", longWord t.screen), ("back", longWord t.back)]

def TraceFile.json (f : TraceFile) : Json :=
  .obj (member? "name" .str f.name)

def UiError.json (e : UiError) : Json :=
  .obj ([("fatal", .bool e.fatal), ("text", .str e.text)] ++
    member? "operation" .str e.operation ++ member? "member" .str e.member ++
    member? "line" longWord e.line ++ member? "column" longWord e.column)

def Notice.body? : Notice → Option Json
  | .bell => some (.obj [])
  | .codePages xs => some (.arr (xs.map CodePage.json))
  | .connectAttempt x => some x.json
  | .connection x => some x.json
  | .erase x => some x.json
  | .flipped value => some (.obj [("value", .bool value)])
  | .font text => some (.obj [("text", .str text)])
  | .formatted state => some (.obj [("state", .bool state)])
  | .fileTransfer x => some x.json
  | .hello x => some x.json
  | .icon text => some (.obj [("text", .str text)])
  | .models xs => some (.arr (xs.map Model.json))
  | .oia x => some x.json
  | .passthru x => some x.json
  | .popup x => some x.json
  | .prefixes value => some (.obj [("value", .str value)])
  | .proxies xs => some (.arr (xs.map Proxy.json))
  | .runResult x => some x.json
  | .screen x => some x.json
  | .screenMode x => some x.json
  | .scroll x => some x.json
  | .setting x => some x.json
  | .stats x => some x.json
  | .terminalName x => some x.json
  | .thumb x => some x.json
  | .tls x => some x.json
  | .tlsHello x => some x.json
  | .traceFile x => some x.json
  | .uiError x => some x.json
  | .windowTitle text => some (.obj [("text", .str text)])
  | .other _ _ => none

namespace Indication

mutual

def json? : Indication → Option Json
  | .notice n => n.body?.map fun body => .obj [(n.tag, body)]
  | .batch members => (memberJson? members).map fun items => .obj [(batchTag, .arr items)]

def memberJson? : List Indication → Option (List Json)
  | [] => some []
  | i :: is =>
    match json? i, memberJson? is with
    | some x, some xs => some (x :: xs)
    | _, _ => none

end

def encode? (i : Indication) : Option String :=
  i.json?.map Json.compact

end Indication

end Display3270
