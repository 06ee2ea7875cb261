import Display3270.Screen.Color
import Display3270.Screen.Cursor

namespace Display3270

inductive ActionCause
  | command
  | default
  | fileTransfer
  | httpd
  | idle
  | keymap
  | macroRun
  | none
  | password
  | paste
  | peek
  | screenRedraw
  | script
  | typeahead
  | ui
  | unknown
  deriving DecidableEq

inductive ConnectionState
  | notConnected
  | reconnecting
  | resolving
  | tcpPending
  | tlsPending
  | telnetPending
  | connectedNvt
  | connectedNvtCharmode
  | connected3270
  | connectedUnbound
  | connectedENvt
  | connectedSscp
  | connectedTn3270e
  | unknown
  deriving DecidableEq

structure Connection where
  state : ConnectionState
  host : Option String
  cause : Option ActionCause
  deriving DecidableEq

structure ConnectAttempt where
  hostIp : String
  port : String
  deriving DecidableEq

structure CodePage where
  name : String
  aliases : List String
  deriving DecidableEq

structure Erase where
  rows : Option UInt16
  cols : Option UInt16
  fg : Option Color
  bg : Option Color
  deriving DecidableEq

structure Hello where
  version : String
  build : String
  copyright : String
  deriving DecidableEq

structure Model where
  model : UInt8
  rows : UInt16
  columns : UInt16
  deriving DecidableEq

inductive ComposeType
  | std
  | ge
  deriving DecidableEq

inductive OiaField
  | compose (value : Bool) (char : Option String) (type : Option ComposeType)
  | insert (value : Bool)
  | lock (value : Option String)
  | lu (value : String) (printer : Option String)
  | notUndera (value : Bool)
  | reverseInput (value : Bool)
  | screenTrace (value : Option UInt64)
  | script (value : Bool)
  | timing (value : Option String)
  | typeahead (value : Bool)
  | unknown
  deriving DecidableEq

structure Proxy where
  name : String
  username : Bool
  port : Option UInt16
  deriving DecidableEq

structure Setting where
  name : String
  value : Option Json
  cause : Option ActionCause
  deriving DecidableEq

structure ScreenMode where
  model : UInt8
  rows : UInt16
  columns : UInt16
  color : Bool
  oversize : Bool
  extended : Bool
  deriving DecidableEq

structure TlsHello where
  supported : Bool
  provider : String
  options : List String
  deriving DecidableEq

structure Tls where
  secure : Bool
  verified : Option Bool
  session : Option String
  hostCert : Option String
  deriving DecidableEq

inductive FileTransferState
  | awaiting
  | running (bytes : UInt64)
  | aborting
  | complete (text : String) (success : Bool)
  deriving DecidableEq

structure FileTransfer where
  state : FileTransferState
  cause : ActionCause
  deriving DecidableEq

structure Passthru where
  pTag : String
  parentRTag : Option String
  action : String
  args : List String
  deriving DecidableEq

inductive PopupType
  | connectError
  | error
  | info
  | result
  | printer
  | child
  deriving DecidableEq

structure Popup where
  type : PopupType
  text : String
  error : Option Json
  deriving DecidableEq

/-- A run of text, or a number of cells of which only the attributes change. -/
inductive Payload
  | count (n : UInt64)
  | text (s : String)
  deriving DecidableEq

/-- A change of neighbouring cells; columns count from one. -/
structure Change where
  column : UInt16
  payload : Payload
  fg : Option Color
  bg : Option Color
  gr : Option String
  deriving DecidableEq

structure RowChanges where
  row : UInt16
  changes : List Change
  deriving DecidableEq

structure ScreenUpdate where
  cursor : Option Cursor
  rows : List RowChanges
  deriving DecidableEq

structure RunResult where
  rTag : Option String
  success : Bool
  text : List String
  abort : Option Bool
  time : Double
  deriving DecidableEq

structure Scroll where
  fg : Option Color
  bg : Option Color
  deriving DecidableEq

structure Stats where
  bytesReceived : UInt64
  bytesSent : UInt64
  recordsReceived : UInt64
  recordsSent : UInt64
  deriving DecidableEq

structure TerminalName where
  text : String
  override : Bool
  deriving DecidableEq

structure Thumb where
  top : Single
  shown : Single
  saved : UInt64
  screen : UInt64
  back : UInt64
  deriving DecidableEq

structure TraceFile where
  name : Option String
  deriving DecidableEq

structure UiError where
  fatal : Bool
  text : String
  operation : Option String
  member : Option String
  line : Option UInt64
  column : Option UInt64
  deriving DecidableEq

/-- One thing that the host tells; a notice of an unknown tag keeps its value. -/
inductive Notice
  | bell
  | codePages (pages : List CodePage)
  | connectAttempt (attempt : ConnectAttempt)
  | connection (connection : Connection)
  | erase (erase : Erase)
  | flipped (value : Bool)
  | font (text : String)
  | formatted (state : Bool)
  | fileTransfer (transfer : FileTransfer)
  | hello (hello : Hello)
  | icon (text : String)
  | models (models : List Model)
  | oia (field : OiaField)
  | passthru (call : Passthru)
  | popup (popup : Popup)
  | prefixes (value : String)
  | proxies (proxies : List Proxy)
  | runResult (result : RunResult)
  | screen (update : ScreenUpdate)
  | screenMode (mode : ScreenMode)
  | scroll (scroll : Scroll)
  | setting (setting : Setting)
  | stats (stats : Stats)
  | terminalName (name : TerminalName)
  | thumb (thumb : Thumb)
  | tls (tls : Tls)
  | tlsHello (hello : TlsHello)
  | traceFile (file : TraceFile)
  | uiError (error : UiError)
  | windowTitle (text : String)
  | other (tag : String) (body : Json)
  deriving DecidableEq

inductive Indication
  | notice (n : Notice)
  | batch (members : List Indication)

def batchTag : String := "initialize"

def Notice.tag : Notice → String
  | .bell => "bell"
  | .codePages _ => "code-pages"
  | .connectAttempt _ => "connect-attempt"
  | .connection _ => "connection"
  | .erase _ => "erase"
  | .flipped _ => "flipped"
  | .font _ => "font"
  | .formatted _ => "formatted"
  | .fileTransfer _ => "ft"
  | .hello _ => "hello"
  | .icon _ => "icon"
  | .models _ => "models"
  | .oia _ => "oia"
  | .passthru _ => "passthru"
  | .popup _ => "popup"
  | .prefixes _ => "prefixes"
  | .proxies _ => "proxies"
  | .runResult _ => "run-result"
  | .screen _ => "screen"
  | .screenMode _ => "screen-mode"
  | .scroll _ => "scroll"
  | .setting _ => "setting"
  | .stats _ => "stats"
  | .terminalName _ => "terminal-name"
  | .thumb _ => "thumb"
  | .tls _ => "tls"
  | .tlsHello _ => "tls-hello"
  | .traceFile _ => "trace-file"
  | .uiError _ => "ui-error"
  | .windowTitle _ => "window-title"
  | .other tag _ => tag

def knownTags : List String :=
  ["bell", "code-pages", "connect-attempt", "connection", "erase", "flipped", "font", "formatted",
    "ft", "hello", "icon", "initialize", "models", "oia", "passthru", "popup", "prefixes",
    "proxies", "run-result", "screen", "screen-mode", "scroll", "setting", "stats",
    "terminal-name", "thumb", "tls", "tls-hello", "trace-file", "ui-error", "window-title"]

namespace Indication

def tag : Indication → String
  | .notice n => n.tag
  | .batch _ => batchTag

mutual

def decEq : (a b : Indication) → Decidable (a = b)
  | .notice m, .notice n => decidable_of_iff (m = n) (by simp)
  | .batch xs, .batch ys =>
    match decEqMembers xs ys with
    | isTrue h => isTrue (by rw [h])
    | isFalse h => isFalse (by simpa using h)
  | .notice _, .batch _ | .batch _, .notice _ => isFalse (by simp)

def decEqMembers : (xs ys : List Indication) → Decidable (xs = ys)
  | [], [] => isTrue rfl
  | [], _ :: _ | _ :: _, [] => isFalse (by simp)
  | x :: xs, y :: ys =>
    match decEq x y, decEqMembers xs ys with
    | isTrue h, isTrue hs => isTrue (by rw [h, hs])
    | isFalse h, _ => isFalse (by simp [h])
    | _, isFalse hs => isFalse (by simp [hs])

end

instance : DecidableEq Indication := decEq

end Indication

end Display3270
