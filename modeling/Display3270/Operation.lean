import Display3270.Json.Printer
import Display3270.Json.Record

namespace Display3270

open Record (required optional defaulted)
open Reader

structure Action where
  action : String
  args : List String
  deriving DecidableEq

structure Run where
  rTag : Option String
  type : Option String
  actions : List Action
  deriving DecidableEq

structure Register where
  name : String
  helpText : Option String
  helpParams : Option String
  deriving DecidableEq

structure PassthruResult where
  pTag : String
  text : List String
  deriving DecidableEq

inductive Operation
  | run (r : Run)
  | register (r : Register)
  | fail (r : PassthruResult)
  | succeed (r : PassthruResult)
  deriving DecidableEq

namespace Action

def plain (action : String) : Action := ⟨action, []⟩

def json (a : Action) : Json :=
  .obj [("action", .str a.action), ("args", .strings a.args)]

def reader : Reader Action :=
  (mk <$> required "action" string <*> defaulted "args" (list string) []).reader

end Action

namespace Run

def json (r : Run) : Json :=
  .obj (Json.member? "r-tag" .str r.rTag ++ Json.member? "type" .str r.type ++
    [("actions", .arr (r.actions.map Action.json))])

def reader : Reader Run :=
  (mk <$> optional "r-tag" string <*> optional "type" string <*>
    required "actions" (list Action.reader)).reader

end Run

namespace Register

def json (r : Register) : Json :=
  .obj ([("name", .str r.name)] ++ Json.member? "help-text" .str r.helpText ++
    Json.member? "help-params" .str r.helpParams)

def reader : Reader Register :=
  (mk <$> required "name" string <*> optional "help-text" string <*>
    optional "help-params" string).reader

end Register

namespace PassthruResult

def json (r : PassthruResult) : Json :=
  .obj ([("p-tag", .str r.pTag)] ++ Json.items? "text" .str r.text)

def reader : Reader PassthruResult :=
  (mk <$> required "p-tag" string <*> defaulted "text" (list string) []).reader

end PassthruResult

namespace Operation

def ofActions (actions : List Action) : Operation := .run ⟨none, none, actions⟩

def json : Operation → Json
  | .run r => .obj [("run", r.json)]
  | .register r => .obj [("register", r.json)]
  | .fail r => .obj [("fail", r.json)]
  | .succeed r => .obj [("succeed", r.json)]

def variants : List (String × Variant Operation) :=
  [("run", .carrying (Run.reader.map .run)),
    ("register", .carrying (Register.reader.map .register)),
    ("fail", .carrying (PassthruResult.reader.map .fail)),
    ("succeed", .carrying (PassthruResult.reader.map .succeed))]

def reader : Reader Operation := choice fun s => variants.lookup s

def encode (o : Operation) : String := o.json.compact

def decode (text : String) : Except Cause Operation := reader.ofText text

end Operation

end Display3270
