namespace Display3270

inductive Cause
  | illFormed
  | ended
  | wrongType
  | wrongValue
  | wrongLength
  | unknownVariant
  | missingField (name : String)
  | duplicateField (name : String)
  | noPayload
  | cursorWithoutPlace
  | untagged
  | malformed (tag : String) (cause : Cause)
  deriving DecidableEq

def untaggedMessage : String :=
  "message is not a single-key tagged object"

def malformedMessage (tag cause : String) : String :=
  "malformed '" ++ tag ++ "' indication: " ++ cause

def Cause.message : Cause → String
  | .illFormed => "syntax"
  | .ended => "eof"
  | .wrongType => "invalid type"
  | .wrongValue => "invalid value"
  | .wrongLength => "invalid length"
  | .unknownVariant => "unknown variant"
  | .missingField name => "missing field \x60" ++ name ++ "\x60"
  | .duplicateField name => "duplicate field \x60" ++ name ++ "\x60"
  | .noPayload => "no variant of enum ChangePayload found in flattened data"
  | .cursorWithoutPlace => "enabled cursor requires row and column"
  | .untagged => untaggedMessage
  | .malformed tag cause => malformedMessage tag cause.message

end Display3270
