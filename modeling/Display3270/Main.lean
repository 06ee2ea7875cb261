import Display3270.Command

namespace Display3270

def readContent (path : String) : IO (Option Content) := do
  try
    let bytes ← IO.FS.readBinFile path
    return some (Content.ofBytes bytes.toList)
  catch _ => return none

def homeConfig : IO ConfigSource := do
  match Config.path? (← IO.getEnv "HOME") with
  | none => return .home none
  | some path => return .home (← readContent path)

def splitConfig : List String → Option String × List String
  | [] => (none, [])
  | "--config" :: path :: args => (some path, (splitConfig args).2)
  | "-c" :: path :: args => (some path, (splitConfig args).2)
  | arg :: args =>
    let (path, rest) := splitConfig args
    (path, arg :: rest)

def configSource : Option String → IO ConfigSource
  | none => homeConfig
  | some path => return .named (← readContent path)

def logLine : LogEntry → String
  | .replay (.skipped line e) =>
    "WARN skipping message line=" ++ toString line ++ " error=" ++ e.message
  | .replay (.rejected line e) =>
    "ERROR message rejected line=" ++ toString line ++ " error=" ++ e.message
  | .attemptFailed => "WARN connect failed"
  | .keyDropped press => "DEBUG dropping input while disconnected key=" ++ press.key
  | .inputUnreadable => "WARN stdin read failed"

def finish (r : CommandResult) : IO UInt32 := do
  for entry in r.log do IO.eprintln (logLine entry)
  IO.print r.stdout
  match r.error with
  | none => pure ()
  | some e => IO.eprintln ("Error: " ++ e.message)
  return .ofNat r.exitCode

def usage : IO UInt32 := do
  IO.eprintln "Usage: term3270 [--config FILE] replay FILE [--json] | connect [ADDR]"
  return 2

def canAppend (path : String) : IO Bool := do
  try
    let _ ← IO.FS.Handle.mk path .append
    return true
  catch _ => return false

partial def readAll (stream : IO.FS.Stream) (bytes : ByteArray) : IO ByteArray := do
  let more ← stream.read 65536
  if more.isEmpty then return bytes else readAll stream (bytes ++ more)

def replayFile (config : Option String) (file : String) (asJson : Bool) : IO UInt32 := do
  finish (replayCommand (← configSource config) (← readContent file) asJson)

/-- No network is at hand, so that no host is ever reached. -/
def connectOffline (config : Option String) : IO UInt32 := do
  let source ← configSource config
  let path := match source.load with
    | .ok c => c.traceFile
    | .error _ => none
  let opens ← match path with
    | some path => canAppend path
    | none => pure true
  let bytes ← readAll (← IO.getStdin) .empty
  finish (connectCommand source (fun _ => opens) (Content.ofBytes bytes.toList))

def runArguments (args : List String) : IO UInt32 := do
  let (config, args) := splitConfig args
  match args with
  | ["replay", file] => replayFile config file false
  | ["replay", file, "--json"] | ["replay", file, "-j"] => replayFile config file true
  | ["replay", "--json", file] | ["replay", "-j", file] => replayFile config file true
  | ["connect"] | ["connect", _] => connectOffline config
  | _ => usage

end Display3270

def main (args : List String) : IO UInt32 := Display3270.runArguments args
