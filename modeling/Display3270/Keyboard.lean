import Display3270.Operation
import Display3270.Text.Blank
import Display3270.Text.Cluster

namespace Display3270

structure Modifiers where
  shift : Bool
  ctrl : Bool
  alt : Bool
  deriving DecidableEq

structure KeyPress where
  key : String
  modifiers : Modifiers
  deriving DecidableEq

inductive Propagation
  | stop
  | stopAndPreventDefault
  | stopImmediate
  deriving DecidableEq

structure Translation where
  action : Action
  propagation : Propagation
  deriving DecidableEq

namespace Modifiers

def none : Modifiers := ⟨false, false, false⟩

def any (m : Modifiers) : Bool := m.shift || m.ctrl || m.alt

def marks (m : Modifiers) : String :=
  (if m.ctrl then "C+" else "") ++ (if m.alt then "M+" else "") ++ (if m.shift then "S+" else "")

end Modifiers

def keymap : List (String × Action) :=
  [("PageUp", ⟨"Scroll", ["backward"]⟩), ("PageDown", ⟨"Scroll", ["forward"]⟩),
    ("Backspace", .plain "Backspace"), ("Enter", .plain "Enter"), ("Tab", .plain "Tab"),
    ("S+Tab", .plain "Backtab"), ("ArrowUp", .plain "Up"), ("ArrowDown", .plain "Down"),
    ("ArrowRight", .plain "Right"), ("ArrowLeft", .plain "Left"), ("M+r", .plain "Reset"),
    ("M+a", .plain "Attn"), ("M+c", .plain "Reconnect"),
    ("Insert", ⟨"Toggle", ["insertMode"]⟩)]

def shiftOffset : Nat := 13

namespace KeyPress

def plain (key : String) : KeyPress := ⟨key, .none⟩

def composite (p : KeyPress) : String := p.modifiers.marks ++ p.key

def printable? (p : KeyPress) : Option String :=
  match clusters p.key.toList with
  | [cluster] => if cluster.any isControl then none else some p.key
  | _ => none

def small? (n : Nat) : Option Nat := if n < Nat.pow 2 32 then some n else none

def functionKey? (p : KeyPress) : Option Nat :=
  match p.key.toList with
  | 'F' :: d :: ds => if (d :: ds).all Char.isDigit then small? (ofDecimal (d :: ds)) else none
  | _ => none

def programFunction? (p : KeyPress) : Option Nat :=
  p.functionKey?.bind fun n => if p.modifiers.shift then small? (n + shiftOffset) else some n

def translate (p : KeyPress) : Option Translation :=
  match if p.modifiers.ctrl || p.modifiers.alt then none else p.printable? with
  | some text => some ⟨⟨"Key", [text]⟩, .stop⟩
  | none =>
    match keymap.lookup p.composite with
    | some action => some ⟨action, .stopAndPreventDefault⟩
    | none => p.programFunction?.map fun n =>
        ⟨⟨"PF", [String.ofList (decimal n)]⟩, .stopImmediate⟩

end KeyPress

def typeLine (line : String) : List KeyPress :=
  (graphemes line).map .plain ++ [.plain "Enter"]

end Display3270
