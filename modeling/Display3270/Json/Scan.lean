import Display3270.Json.Draft
import Display3270.Json.Numeral

namespace Display3270

namespace Numeral

inductive Phase
  | minus | zero | whole | point | fraction | mark | markSign | exponent
  deriving DecidableEq

inductive Step
  | more (n : Numeral) (p : Phase)
  | ends
  | wrong

def start (c : Char) : Option (Numeral × Phase) :=
  if c = '-' then some (⟨true, [], [], false, []⟩, .minus)
  else if c = '0' then some (⟨false, [c], [], false, []⟩, .zero)
  else if c.isDigit then some (⟨false, [c], [], false, []⟩, .whole)
  else none

def afterWhole (n : Numeral) (c : Char) : Step :=
  if c = '.' then .more n .point
  else if c = 'e' ∨ c = 'E' then .more n .mark
  else .ends

def pushExponent (n : Numeral) (c : Char) : Step :=
  .more ⟨n.negative, n.whole, n.fraction, n.down, c :: n.exponent⟩ .exponent

def step (n : Numeral) : Phase → Char → Step
  | .minus, c =>
    if c = '0' then .more ⟨n.negative, [c], n.fraction, n.down, n.exponent⟩ .zero
    else if c.isDigit then .more ⟨n.negative, [c], n.fraction, n.down, n.exponent⟩ .whole
    else .wrong
  | .zero, c => if c.isDigit then .wrong else afterWhole n c
  | .whole, c =>
    if c.isDigit then .more ⟨n.negative, c :: n.whole, n.fraction, n.down, n.exponent⟩ .whole
    else afterWhole n c
  | .point, c =>
    if c.isDigit then .more ⟨n.negative, n.whole, [c], n.down, n.exponent⟩ .fraction else .wrong
  | .fraction, c =>
    if c.isDigit then
      .more ⟨n.negative, n.whole, c :: n.fraction, n.down, n.exponent⟩ .fraction
    else if c = 'e' ∨ c = 'E' then .more n .mark
    else .ends
  | .mark, c =>
    if c = '+' then .more n .markSign
    else if c = '-' then .more ⟨n.negative, n.whole, n.fraction, true, n.exponent⟩ .markSign
    else if c.isDigit then pushExponent n c
    else .wrong
  | .markSign, c => if c.isDigit then pushExponent n c else .wrong
  | .exponent, c => if c.isDigit then pushExponent n c else .ends

def Phase.complete : Phase → Bool
  | .zero | .whole | .fraction | .exponent => true
  | .minus | .point | .mark | .markSign => false

def draft (n : Numeral) : Draft :=
  match n.number? with
  | some x => .num x
  | none => .fault ⟨.illFormed, none, .illFormed⟩

end Numeral

/-- Where the reading of a string stands: between characters, after a backslash, after half of a
surrogate pair, in the four digits of an escape, or past digits that cannot be completed, with the
bytes since the `u`. -/
inductive Within
  | plain
  | escape
  | half (high : Nat)
  | halfEscape (high : Nat)
  | hex (high : Option Nat) (count code : Nat)
  | short (bytes : Nat)
  deriving DecidableEq

/-- A string as far as it has been read, its last character first; `paired` is false once half of
a surrogate pair stands alone. -/
structure Spelling where
  chars : List Char
  paired : Bool
  within : Within

namespace Spelling

inductive Step
  | more (s : Spelling)
  | ends (s : Spelling)
  | wrong (s : Spelling)

def start : Spelling := ⟨[], true, .plain⟩

def push (s : Spelling) (c : Char) : Step :=
  .more ⟨c :: s.chars, s.paired, .plain⟩

def plainStep (s : Spelling) (c : Char) : Step :=
  if c = '"' then .ends s
  else if c = '\\' then .more ⟨s.chars, s.paired, .escape⟩
  else if c.toNat < 0x20 then .wrong s
  else s.push c

def escapeStep (s : Spelling) (c : Char) : Step :=
  if c = '"' ∨ c = '\\' ∨ c = '/' then s.push c
  else if c = 'b' then s.push '\x08'
  else if c = 'f' then s.push '\x0c'
  else if c = 'n' then s.push '\n'
  else if c = 'r' then s.push '\r'
  else if c = 't' then s.push '\t'
  else if c = 'u' then .more ⟨s.chars, s.paired, .hex none 0 0⟩
  else .wrong s

def hexValue (c : Char) : Option Nat :=
  if c.isDigit then some (c.toNat - '0'.toNat)
  else if 'a' ≤ c ∧ c ≤ 'f' then some (c.toNat - 'a'.toNat + 10)
  else if 'A' ≤ c ∧ c ≤ 'F' then some (c.toNat - 'A'.toNat + 10)
  else none

def isHigh (code : Nat) : Bool := 0xD800 ≤ code && code ≤ 0xDBFF

def isLow (code : Nat) : Bool := 0xDC00 ≤ code && code ≤ 0xDFFF

def pair (high low : Nat) : Char :=
  Char.ofNat ((high - 0xD800) * 0x400 + (low - 0xDC00) + 0x10000)

def unpaired (s : Spelling) : Spelling := ⟨s.chars, false, .plain⟩

def pushCode (s : Spelling) : Option Nat → Nat → Step
  | none, code =>
    if isHigh code then .more ⟨s.chars, s.paired, .half code⟩
    else if isLow code then .more s.unpaired
    else s.push (Char.ofNat code)
  | some high, code =>
    if isLow code then s.push (pair high code) else .more s.unpaired

def shortStep (s : Spelling) (bytes : Nat) : Step :=
  if 4 ≤ bytes then .wrong s else .more ⟨s.chars, s.paired, .short bytes⟩

def step (s : Spelling) (c : Char) : Step :=
  match s.within with
  | .plain => s.plainStep c
  | .escape => s.escapeStep c
  | .half high =>
    if c = '\\' then .more ⟨s.chars, s.paired, .halfEscape high⟩ else s.unpaired.plainStep c
  | .halfEscape high =>
    if c = 'u' then .more ⟨s.chars, s.paired, .hex (some high) 0 0⟩ else s.unpaired.escapeStep c
  | .hex high count code =>
    match hexValue c with
    | none => s.shortStep (count + c.utf8Size)
    | some d =>
      if count = 3 then s.pushCode high (16 * code + d)
      else .more ⟨s.chars, s.paired, .hex high (count + 1) (16 * code + d)⟩
  | .short bytes => s.shortStep (bytes + c.utf8Size)

def text? (s : Spelling) : Option String :=
  if s.paired then some (String.ofList s.chars.reverse) else none

def fault (s : Spelling) (c : Cause) : Fault :=
  let read := if s.paired then c else .illFormed
  ⟨read, some c, read⟩

def draft (s : Spelling) : Draft :=
  match s.text? with
  | some t => .str t
  | none => .fault ⟨.illFormed, none, .illFormed⟩

end Spelling

namespace Draft

inductive Frame
  | items (done : List Draft)
  | members (done : List (Option String × Draft)) (key : Option String)

inductive Mode
  | value
  | itemOrEnd
  | afterItem (done : List Draft)
  | keyOrEnd
  | key (done : List (Option String × Draft))
  | colon (done : List (Option String × Draft)) (key : Option String)
  | afterMember (done : List (Option String × Draft))
  | word (rest : List Char) (result : Draft)
  | number (n : Numeral) (p : Numeral.Phase)
  | string (s : Spelling)
  | keyString (done : List (Option String × Draft)) (s : Spelling)
  | finished (d : Draft) (trailing : Bool)
  | broken (d : Draft)

structure Scanner where
  stack : List Frame
  mode : Mode

namespace Scanner

def start : Scanner := ⟨[], .value⟩

def wrap : List Frame → Draft → Draft
  | [], d => d
  | .items done :: st, d => wrap st (.arr (d :: done).reverse none)
  | .members done key :: st, d => wrap st (.obj ((key, d) :: done).reverse none)

def breakAt (st : List Frame) (d : Draft) : Scanner := ⟨[], .broken (wrap st d)⟩

def fail (st : List Frame) (f : Fault) : Scanner := breakAt st (.fault f)

def wrong (st : List Frame) : Scanner := fail st (Fault.all .illFormed)

def deliver (d : Draft) : List Frame → Scanner
  | [] => ⟨[], .finished d false⟩
  | .items done :: st => ⟨st, .afterItem (d :: done)⟩
  | .members done key :: st => ⟨st, .afterMember ((key, d) :: done)⟩

def isSpace (c : Char) : Bool :=
  c = ' ' || c = '\n' || c = '\t' || c = '\r'

def begin (st : List Frame) (c : Char) : Scanner :=
  if c = '"' then ⟨st, .string Spelling.start⟩
  else if c = '[' then ⟨st, .itemOrEnd⟩
  else if c = '{' then ⟨st, .keyOrEnd⟩
  else if c = 'n' then ⟨st, .word "ull".toList .null⟩
  else if c = 't' then ⟨st, .word "rue".toList (.bool true)⟩
  else if c = 'f' then ⟨st, .word "alse".toList (.bool false)⟩
  else match Numeral.start c with
    | some (n, p) => ⟨st, .number n p⟩
    | none => wrong st

def noKey (c : Cause) : Fault := ⟨c, some c, .illFormed⟩

def stepOutside (s : Scanner) (c : Char) : Scanner :=
  let st := s.stack
  match s.mode with
  | .value => if isSpace c then s else begin st c
  | .itemOrEnd =>
    if isSpace c then s else if c = ']' then deliver (.arr [] none) st
    else begin (.items [] :: st) c
  | .afterItem done =>
    if isSpace c then s
    else if c = ',' then ⟨.items done :: st, .value⟩
    else if c = ']' then deliver (.arr done.reverse none) st
    else breakAt st (.arr done.reverse (some (Fault.all .illFormed)))
  | .keyOrEnd =>
    if isSpace c then s
    else if c = '}' then deliver (.obj [] none) st
    else if c = '"' then ⟨st, .keyString [] Spelling.start⟩
    else breakAt st (.obj [] (some (Fault.all .illFormed)))
  | .key done =>
    if isSpace c then s
    else if c = '"' then ⟨st, .keyString done Spelling.start⟩
    else breakAt st (.obj done.reverse (some (noKey .illFormed)))
  | .colon done key =>
    if isSpace c then s
    else if c = ':' then ⟨.members done key :: st, .value⟩
    else wrong (.members done key :: st)
  | .afterMember done =>
    if isSpace c then s
    else if c = ',' then ⟨st, .key done⟩
    else if c = '}' then deliver (.obj done.reverse none) st
    else breakAt st (.obj done.reverse (some (Fault.all .illFormed)))
  | .word rest result =>
    match rest with
    | [] => s
    | r :: rs =>
      if c ≠ r then wrong st
      else if rs.isEmpty then deliver result st
      else ⟨st, .word rs result⟩
  | .string q =>
    match q.step c with
    | .more q => ⟨st, .string q⟩
    | .ends q => deliver q.draft st
    | .wrong q => fail st (q.fault .illFormed)
  | .keyString done q =>
    match q.step c with
    | .more q => ⟨st, .keyString done q⟩
    | .ends q => ⟨st, .colon done q.text?⟩
    | .wrong q => breakAt st (.obj done.reverse (some (q.fault .illFormed)))
  | .finished d _ => if isSpace c then s else ⟨st, .finished d true⟩
  | .number _ _ | .broken _ => s

def step (s : Scanner) (c : Char) : Scanner :=
  match s.mode with
  | .number n p =>
    match n.step p c with
    | .more n p => ⟨s.stack, .number n p⟩
    | .ends => stepOutside (deliver n.draft s.stack) c
    | .wrong => wrong s.stack
  | _ => stepOutside s c

def cutOff (s : Scanner) : Draft :=
  let st := s.stack
  match s.mode with
  | .value => wrap st (.fault (Fault.all .ended))
  | .itemOrEnd => wrap st (.arr [] (some (Fault.all .ended)))
  | .afterItem done => wrap st (.arr done.reverse (some (Fault.all .ended)))
  | .keyOrEnd => wrap st (.obj [] (some (Fault.all .ended)))
  | .key done => wrap st (.obj done.reverse (some (noKey .ended)))
  | .colon done key => wrap (.members done key :: st) (.fault (Fault.all .ended))
  | .afterMember done => wrap st (.obj done.reverse (some (Fault.all .ended)))
  | .word _ _ => wrap st (.fault ⟨.ended, some .ended, .illFormed⟩)
  | .number _ _ => wrap st (.fault ⟨.ended, some .illFormed, .illFormed⟩)
  | .string q => wrap st (.fault (q.fault .ended))
  | .keyString done q => wrap st (.obj done.reverse (some (q.fault .ended)))
  | .finished d _ => d
  | .broken d => d

def finish (s : Scanner) : Draft × Bool :=
  match s.mode with
  | .number n p =>
    if p.complete then
      match deliver n.draft s.stack with
      | ⟨_, .finished d trailing⟩ => (d, trailing)
      | t => (cutOff t, false)
    else (cutOff s, false)
  | .finished d trailing => (d, trailing)
  | _ => (cutOff s, false)

end Scanner

def scan (text : List Char) : Draft × Bool :=
  (text.foldl Scanner.step Scanner.start).finish

end Draft

namespace Json

def parse (s : String) : Except Cause Json := do
  let (draft, trailing) := Draft.scan s.toList
  let j ← draft.value (some Draft.depthLimit)
  if trailing then throw .illFormed
  return j

end Json

end Display3270
