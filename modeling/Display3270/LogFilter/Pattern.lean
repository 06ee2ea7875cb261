import Display3270.Json.Scan
import Display3270.Text.Letter

namespace Display3270

inductive PatternToken
  | plain (c : Char)
  | escaped (c : Char)
  | edge
  deriving DecidableEq

namespace PatternToken

def escape? : Char → Option PatternToken
  | 'A' | 'z' => some .edge
  | 'a' => some (.escaped '\x07')
  | 'f' => some (.escaped '\x0c')
  | 'n' => some (.escaped '\n')
  | 'r' => some (.escaped '\r')
  | 't' => some (.escaped '\t')
  | 'v' => some (.escaped '\x0b')
  | c => if c.toNat < 0x80 && !c.isAlphanum && c != '<' && c != '>' then some (.escaped c) else none

def hexDigits? : Char → Option Nat
  | 'x' => some 2
  | 'u' => some 4
  | 'U' => some 8
  | _ => none

def scan : Nat → Nat → List Char → Option (List PatternToken)
  | 0, _, [] => some []
  | 0, _, ['\\'] => none
  | 0, _, '\\' :: c :: cs =>
    match hexDigits? c with
    | some digits => scan digits 0 cs
    | none => do
      let t ← escape? c
      let ts ← scan 0 0 cs
      return t :: ts
  | 0, _, c :: cs => (scan 0 0 cs).map (.plain c :: ·)
  | _ + 1, _, [] => none
  | left + 1, code, c :: cs => do
    let code := 16 * code + (← Spelling.hexValue c)
    if left = 0 then
      if code.isValidChar then
        let ts ← scan 0 0 cs
        return .escaped (.ofNat code) :: ts
      else none
    else scan left code cs

def ofText? (cs : List Char) : Option (List PatternToken) := scan 0 0 cs

def char? : PatternToken → Option Char
  | .plain c | .escaped c => some c
  | .edge => none

end PatternToken

/-- What is known of a regular expression that has been read in part: whether something stands
before that can be repeated, whether upper and lower case are the same, the same for the groups
around, and the names of groups. -/
structure PatternState where
  repeatable : Bool
  folds : Bool
  outer : List Bool
  names : List (List Char)

namespace PatternState

def initial : PatternState := ⟨false, false, [], []⟩

def item (s : PatternState) : PatternState := ⟨true, s.folds, s.outer, s.names⟩

def branch (s : PatternState) : PatternState := ⟨false, s.folds, s.outer, s.names⟩

def opened (s : PatternState) (folds : Bool) : PatternState :=
  ⟨false, folds, s.folds :: s.outer, s.names⟩

def closed? (s : PatternState) : Option PatternState :=
  match s.outer with
  | [] => none
  | folds :: outer => some ⟨true, folds, outer, s.names⟩

def folding (s : PatternState) (folds : Bool) : PatternState := ⟨false, folds, s.outer, s.names⟩

def named? (s : PatternState) (name : List Char) : Option PatternState :=
  if name.isEmpty || s.names.contains name then none
  else some ⟨s.repeatable, s.folds, s.outer, name :: s.names⟩

end PatternState

inductive PatternPlace
  | items
  | group
  | groupKind
  | groupP
  | groupName (name : List Char)
  | flags (seen : List Char)
  | classStart (depth : Nat)
  | classLead (depth : Nat) (bare : Bool)
  | classItems (depth : Nat)
  | classSign (depth : Nat) (c : Char)
  | classAfter (depth : Nat) (c : Char)
  | classRange (depth : Nat) (c : Char)

abbrev PatternPoint := PatternPlace × PatternState

namespace PatternPoint

/-- There are no tables for characters beyond ASCII, so that nothing may stand where upper and
lower case would have to be compared. -/
def ofItem (s : PatternState) : PatternToken → Option PatternPoint
  | .plain '(' => some (.group, s)
  | .plain ')' => s.closed?.map fun s => (.items, s)
  | .plain '|' => some (.items, s.branch)
  | .plain '[' => if s.folds then none else some (.classStart 0, s)
  | .plain '{' => none
  | .plain '?' | .plain '*' | .plain '+' => if s.repeatable then some (.items, s) else none
  | .plain '.' | .plain '^' | .plain '$' | .edge => some (.items, s.item)
  | .plain _ | .escaped _ => if s.folds then none else some (.items, s.item)

def isNamePart (name : List Char) (c : Char) : Bool :=
  if name.isEmpty then c == '_' || isLetter c
  else c == '_' || c == '.' || c == '[' || c == ']' || isLetterOrNumber c

def ofNamePart (s : PatternState) (name : List Char) : PatternToken → Option PatternPoint
  | .plain '>' => (s.named? name).map fun s => (.items, s.opened s.folds)
  | .plain c => if isNamePart name c then some (.groupName (c :: name), s) else none
  | _ => none

def folds (seen : List Char) (before : Bool) : Bool :=
  if seen.contains 'i' then !(seen.dropWhile (· != 'i')).contains '-' else before

def ofFlag (s : PatternState) (seen : List Char) : PatternToken → Option PatternPoint
  | .plain ')' =>
    if seen.isEmpty || seen.head? == some '-' then none
    else some (.items, s.folding (folds seen s.folds))
  | .plain ':' =>
    if seen.head? == some '-' then none else some (.items, s.opened (folds seen s.folds))
  | .plain c =>
    if "-imsUuRx".toList.contains c && !seen.contains c then some (.flags (c :: seen), s) else none
  | _ => none

def ofClassItem (s : PatternState) (depth : Nat) : PatternToken → Option PatternPoint
  | .plain '[' => some (.classStart (depth + 1), s)
  | .plain ']' => some (match depth with
    | 0 => (.items, s.item)
    | depth + 1 => (.classItems depth, s))
  | .plain '&' => some (.classSign depth '&', s)
  | .plain '-' => some (.classSign depth '-', s)
  | .plain '~' => some (.classSign depth '~', s)
  | t => t.char?.map fun c => (.classAfter depth c, s)

def ofLead (s : PatternState) (depth : Nat) (bare : Bool) : PatternToken → Option PatternPoint
  | .plain '-' => some (.classLead depth false, s)
  | .plain ']' => if bare then some (.classItems depth, s) else ofClassItem s depth (.plain ']')
  | t => ofClassItem s depth t

def ofAfter (s : PatternState) (depth : Nat) (c : Char) (t : PatternToken) : Option PatternPoint :=
  if t = .plain '-' then some (.classRange depth c, s) else ofClassItem s depth t

def ofRange (s : PatternState) (depth : Nat) (c : Char) : PatternToken → Option PatternPoint
  | .plain ']' => ofClassItem s depth (.plain ']')
  | .plain '-' => some (.classItems depth, s)
  | t => match t.char? with
    | some d => if c ≤ d then some (.classItems depth, s) else none
    | none => none

def next (p : PatternPoint) (t : PatternToken) : Option PatternPoint :=
  match p with
  | (.items, s) => ofItem s t
  | (.group, s) => if t = .plain '?' then some (.groupKind, s) else ofItem (s.opened s.folds) t
  | (.groupKind, s) =>
    if t = .plain 'P' then some (.groupP, s)
    else if t = .plain '<' then some (.groupName [], s)
    else ofFlag s [] t
  | (.groupP, s) => if t = .plain '<' then some (.groupName [], s) else none
  | (.groupName name, s) => ofNamePart s name t
  | (.flags seen, s) => ofFlag s seen t
  | (.classStart depth, s) =>
    if t = .plain '^' then some (.classLead depth true, s) else ofLead s depth true t
  | (.classLead depth bare, s) => ofLead s depth bare t
  | (.classItems depth, s) => ofClassItem s depth t
  | (.classSign depth c, s) =>
    if t = .plain c then some (.classItems depth, s) else ofAfter s depth c t
  | (.classAfter depth c, s) => ofAfter s depth c t
  | (.classRange depth c, s) => ofRange s depth c t

def isWhole : PatternPoint → Bool
  | (.items, s) => s.outer.isEmpty
  | _ => false

end PatternPoint

def isPattern (cs : List Char) : Bool :=
  match PatternToken.ofText? cs with
  | none => false
  | some ts => (ts.foldlM PatternPoint.next (.items, .initial)).any PatternPoint.isWhole

end Display3270
