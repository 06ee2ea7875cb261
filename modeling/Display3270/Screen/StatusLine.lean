import Display3270.Screen.Event

namespace Display3270

structure StatusLine where
  texts : Vector String 13
  deriving DecidableEq

def readyText : String := "READY"

def ConnectionState.glyph? : ConnectionState → Option String
  | .notConnected => some " "
  | .reconnecting => some "~"
  | .resolving => some "?"
  | .tcpPending => some "-"
  | .tlsPending => some "="
  | .telnetPending => some "t"
  | .connectedNvt => some "n"
  | .connectedNvtCharmode => some "C"
  | .connected3270 => some "3"
  | .connectedUnbound => some "!"
  | .connectedENvt => some "N"
  | .connectedSscp => some "S"
  | .connectedTn3270e => some "E"
  | .unknown => none

def flagText (on : Bool) (glyph : String) : String :=
  if on then glyph else " "

def blanks (n : Nat) : String := String.ofList (List.replicate n ' ')

def composeText (value : Bool) (char : Option String) (type : Option ComposeType) : String :=
  if value then (if type = some .ge then "G" else " ") ++ char.getD " " else blanks 7

def OiaField.texts : OiaField → List (StatusField × String)
  | .compose value char type => [(.compose, composeText value char type)]
  | .insert value => [(.insert, flagText value "^")]
  | .lock value => [(.lock, value.getD readyText)]
  | .lu value printer => [(.lu, value), (.printer, flagText printer.isSome "P")]
  | .notUndera value => [(.notUndera, flagText (!value) "B")]
  | .reverseInput value => [(.reverseInput, if value then "<" else ">")]
  | .screenTrace value => [(.screenTrace, flagText (0 < (value.getD 0).toNat) "t")]
  | .script value => [(.script, flagText value "s")]
  | .timing value => [(.timing, value.getD (blanks 6))]
  | .typeahead value => [(.typeahead, flagText value "T")]
  | .unknown => []

def ConnectionState.texts (s : ConnectionState) : List (StatusField × String) :=
  (s.glyph?.map fun glyph => (StatusField.connection, glyph)).toList

def Cursor.texts (c : Cursor) : List (StatusField × String) :=
  (c.position?.map fun text => (StatusField.position, text)).toList

namespace StatusLine

def get (s : StatusLine) (f : StatusField) : String := s.texts[f.index]

def set (s : StatusLine) (f : StatusField) (text : String) : StatusLine :=
  ⟨s.texts.set f.index text⟩

def initial : StatusLine :=
  (⟨Vector.replicate 13 ""⟩ : StatusLine).set .reverseInput ">"

def apply (s : StatusLine) (texts : List (StatusField × String)) : StatusLine :=
  texts.foldl (fun s t => s.set t.1 t.2) s

def events (texts : List (StatusField × String)) : List Event :=
  texts.map fun t => .status t.1 t.2

def line (s : StatusLine) : String :=
  " ".intercalate (StatusField.all.map s.get)

end StatusLine

end Display3270
