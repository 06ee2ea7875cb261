import Display3270.Json.Record

namespace Display3270

inductive Color
  | neutralBlack
  | blue
  | red
  | pink
  | green
  | turquoise
  | yellow
  | neutralWhite
  | black
  | deepBlue
  | orange
  | purple
  | paleGreen
  | paleTurquoise
  | gray
  | white
  deriving DecidableEq

namespace Color

def all : List Color :=
  [.neutralBlack, .blue, .red, .pink, .green, .turquoise, .yellow, .neutralWhite, .black,
    .deepBlue, .orange, .purple, .paleGreen, .paleTurquoise, .gray, .white]

def name : Color → String
  | .neutralBlack => "neutralBlack"
  | .blue => "blue"
  | .red => "red"
  | .pink => "pink"
  | .green => "green"
  | .turquoise => "turquoise"
  | .yellow => "yellow"
  | .neutralWhite => "neutralWhite"
  | .black => "black"
  | .deepBlue => "deepBlue"
  | .orange => "orange"
  | .purple => "purple"
  | .paleGreen => "paleGreen"
  | .paleTurquoise => "paleTurquoise"
  | .gray => "gray"
  | .white => "white"

def defaultForeground : Color := .neutralWhite

def defaultBackground : Color := .neutralBlack

def reader : Reader Color :=
  Reader.named (all.map fun c => (c.name, c)) none

def json (c : Color) : Json := .str c.name

end Color

end Display3270
