import Display3270.Json.Basic

namespace Display3270

def Number.chars : Number → List Char
  | .int n => if n < 0 then '-' :: decimal n.natAbs else decimal n.natAbs
  | .double x => (x.text? .double).getD "null".toList
  | .single x => (x.text? .single).getD "null".toList

namespace Json

def hexDigit (n : Nat) : Char :=
  if n < 10 then Char.ofNat ('0'.toNat + n) else Char.ofNat ('a'.toNat + (n - 10))

def escape (c : Char) : List Char :=
  if c = '"' then ['\\', '"']
  else if c = '\\' then ['\\', '\\']
  else if c = '\n' then ['\\', 'n']
  else if c = '\r' then ['\\', 'r']
  else if c = '\t' then ['\\', 't']
  else if c = '\x08' then ['\\', 'b']
  else if c = '\x0c' then ['\\', 'f']
  else if c.toNat < 0x20 then
    ['\\', 'u', '0', '0', hexDigit (c.toNat / 16), hexDigit (c.toNat % 16)]
  else [c]

def quoted (s : String) : List Char :=
  '"' :: s.toList.flatMap escape ++ ['"']

structure Spacing where
  lineBreak : Nat → List Char
  afterColon : List Char

def Spacing.compact : Spacing := ⟨fun _ => [], []⟩

def Spacing.indented : Spacing := ⟨fun n => '\n' :: List.replicate (2 * n) ' ', [' ']⟩

mutual

def chars (sp : Spacing) (depth : Nat) : Json → List Char
  | .null => "null".toList
  | .bool true => "true".toList
  | .bool false => "false".toList
  | .num n => n.chars
  | .str s => quoted s
  | .arr [] => ['[', ']']
  | .arr (x :: xs) =>
    '[' :: sp.lineBreak (depth + 1) ++ chars sp (depth + 1) x ++ itemChars sp (depth + 1) xs ++
      sp.lineBreak depth ++ [']']
  | .obj [] => ['{', '}']
  | .obj ((k, x) :: ms) =>
    '{' :: sp.lineBreak (depth + 1) ++ quoted k ++ ':' :: sp.afterColon ++
      chars sp (depth + 1) x ++ memberChars sp (depth + 1) ms ++ sp.lineBreak depth ++ ['}']

def itemChars (sp : Spacing) (depth : Nat) : List Json → List Char
  | [] => []
  | x :: xs => ',' :: sp.lineBreak depth ++ chars sp depth x ++ itemChars sp depth xs

def memberChars (sp : Spacing) (depth : Nat) : List (String × Json) → List Char
  | [] => []
  | (k, x) :: ms =>
    ',' :: sp.lineBreak depth ++ quoted k ++ ':' :: sp.afterColon ++ chars sp depth x ++
      memberChars sp depth ms

end

def compact (j : Json) : String :=
  String.ofList (j.chars .compact 0)

def indented (j : Json) : String :=
  String.ofList (j.chars .indented 0)

end Json

end Display3270
