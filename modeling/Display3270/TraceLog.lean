namespace Display3270

structure TraceLog where
  text : String
  deriving DecidableEq

namespace TraceLog

def empty : TraceLog := ⟨""⟩

def record (t : TraceLog) (message : String) : TraceLog := ⟨t.text ++ message ++ "\n"⟩

def recordAll (t : TraceLog) (messages : List String) : TraceLog := messages.foldl record t

end TraceLog

end Display3270
