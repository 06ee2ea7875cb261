import Display3270.LogFilter.Pattern
import Display3270.Number.Decimal
import Display3270.Text.Blank

namespace Display3270

inductive LogLevel
  | error
  | warn
  | info
  | debug
  | trace
  deriving DecidableEq

namespace LogLevel

def rank : LogLevel → Nat
  | .error => 1
  | .warn => 2
  | .info => 3
  | .debug => 4
  | .trace => 5

def all : Nat := 5

def limitOfNumber? (cs : List Char) : Option Nat :=
  let ds := match cs with
    | '+' :: ds => ds
    | ds => ds
  if ds.isEmpty || !ds.all Char.isDigit || all < ofDecimal ds then none else some (ofDecimal ds)

def limitOfWord? (cs : List Char) : Option Nat :=
  match String.ofList (cs.map Char.toLower) with
  | "off" => some 0
  | "error" => some 1
  | "warn" => some 2
  | "info" => some 3
  | "debug" => some 4
  | "trace" => some 5
  | _ => none

def limit? (cs : List Char) : Option Nat :=
  limitOfNumber? cs <|> limitOfWord? cs

end LogLevel

/-- How much is let through of what the parts of the program under `target` say, if it has a field
of that name. A directive about spans is about nothing that is said outside them. -/
structure LogDirective where
  target : List Char
  field : Option (List Char)
  inSpan : Bool
  limit : Nat
  deriving DecidableEq

/-- The text of a directive. The blanks around it are left out when its signs are looked for, but
what stands between them is taken from the whole text, at the same distances in bytes. -/
structure DirectiveText where
  whole : List Char
  deriving DecidableEq

namespace DirectiveText

def width (cs : List Char) : Nat :=
  cs.foldr (fun c n => c.utf8Size + n) 0

def dropBytes? : Nat → List Char → Option (List Char)
  | 0, cs => some cs
  | _ + 1, [] => none
  | n + 1, c :: cs => if c.utf8Size ≤ n + 1 then dropBytes? (n + 1 - c.utf8Size) cs else none

def takeBytes? : Nat → List Char → Option (List Char)
  | 0, _ => some []
  | _ + 1, [] => none
  | n + 1, c :: cs =>
    if c.utf8Size ≤ n + 1 then (takeBytes? (n + 1 - c.utf8Size) cs).map (c :: ·) else none

def piece? (t : DirectiveText) (start : Nat) (cs : List Char) : Option (List Char) :=
  (dropBytes? start t.whole).bind (takeBytes? (width cs))

def level? (t : DirectiveText) (start : Nat) : List Char → Option Nat
  | [] => some LogLevel.all
  | '=' :: _ => do
    let cs ← dropBytes? (start + 1) t.whole
    if cs.isEmpty then return LogLevel.all else LogLevel.limit? cs
  | _ => none

def field? (cs : List Char) : Option (List Char × Option (List Char)) :=
  match cs.span (· != '=') with
  | (name, []) => some (name, none)
  | (name, _ :: rest) =>
    let value := rest.takeWhile (· != '=')
    if (NumberText.ofChars? value).isSome || isPattern value then some (name, some value) else none

def ofField? (t : DirectiveText) (target : List Char) (named : Bool) (start : Nat)
    (cs : List Char) : Option LogDirective :=
  match cs.span (· != '}') with
  | ([], _) => none
  | (inside, '}' :: ']' :: rest) => do
    let (name, value) ← field? (← t.piece? start inside)
    let limit ← t.level? (start + width inside + 2) rest
    return ⟨target, some name, named || value.isSome, limit⟩
  | _ => none

def ofSpan? (t : DirectiveText) (target : List Char) (start : Nat) (cs : List Char) :
    Option LogDirective :=
  match cs.span fun c => c != ']' && c != '{' with
  | (inside, ']' :: rest) => do
    let limit ← t.level? (start + width inside + 1) rest
    return ⟨target, none, true, limit⟩
  | (inside, '{' :: rest) => t.ofField? target (!inside.isEmpty) (start + width inside + 1) rest
  | _ => none

def mayStart (c : Char) : Bool :=
  c == '-' || c == ':' || c == '_' || isLetterOrNumber c

def ofTarget? (t : DirectiveText) (cs : List Char) : Option LogDirective :=
  match cs.span fun c => c != '=' && c != '[' with
  | (_, []) => match LogLevel.limit? t.whole with
    | some limit => some ⟨[], none, false, limit⟩
    | none => some ⟨t.whole, none, false, LogLevel.all⟩
  | (word, '[' :: rest) => do
    let target ← t.piece? 0 word
    t.ofSpan? target (width word + 1) rest
  | (word, rest) => do
    let target ← t.piece? 0 word
    let limit ← t.level? (width word) rest
    return ⟨target, none, false, limit⟩

def directive? (t : DirectiveText) : Option LogDirective :=
  match trim t.whole with
  | [] => none
  | '[' :: cs => t.ofSpan? [] 1 cs
  | c :: cs => if mayStart c then t.ofTarget? (c :: cs) else none

end DirectiveText

end Display3270
