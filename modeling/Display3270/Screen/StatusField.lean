namespace Display3270

inductive StatusField
  | notUndera
  | connection
  | lock
  | compose
  | typeahead
  | reverseInput
  | insert
  | printer
  | screenTrace
  | script
  | lu
  | timing
  | position
  deriving DecidableEq

namespace StatusField

def all : List StatusField :=
  [.notUndera, .connection, .lock, .compose, .typeahead, .reverseInput, .insert, .printer,
    .screenTrace, .script, .lu, .timing, .position]

def index : StatusField → Fin 13
  | .notUndera => 0
  | .connection => 1
  | .lock => 2
  | .compose => 3
  | .typeahead => 4
  | .reverseInput => 5
  | .insert => 6
  | .printer => 7
  | .screenTrace => 8
  | .script => 9
  | .lu => 10
  | .timing => 11
  | .position => 12

def name : StatusField → String
  | .notUndera => "not-undera"
  | .connection => "connection"
  | .lock => "lock"
  | .compose => "compose"
  | .typeahead => "typeahead"
  | .reverseInput => "reverse-input"
  | .insert => "insert"
  | .printer => "printer"
  | .screenTrace => "screen-trace"
  | .script => "script"
  | .lu => "lu"
  | .timing => "timing"
  | .position => "position"

end StatusField

end Display3270
