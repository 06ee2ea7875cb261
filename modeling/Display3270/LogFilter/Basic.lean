import Display3270.LogFilter.Directive
import Display3270.Screen.Rendition

namespace Display3270

structure LogOrigin where
  target : String
  level : LogLevel
  fields : List String
  deriving DecidableEq

namespace LogDirective

def covers (d : LogDirective) (o : LogOrigin) : Bool :=
  !d.inSpan && d.target.isPrefixOf o.target.toList &&
    d.field.all fun name => o.fields.contains (String.ofList name)

def fieldAtMost : Option (List Char) → Option (List Char) → Bool
  | none, _ => true
  | some _, none => false
  | some a, some b => !List.lex b a fun x y => x.toNat < y.toNat

def overrides (d b : LogDirective) : Bool :=
  b.target.length < d.target.length ||
    (b.target.length == d.target.length && fieldAtMost b.field d.field)

end LogDirective

structure LogFilter where
  directives : List LogDirective
  deriving DecidableEq

namespace LogFilter

def errors : LogFilter := ⟨[⟨[], none, false, LogLevel.error.rank⟩]⟩

def ofText (text : String) : LogFilter :=
  match (cut ',' text.toList).filterMap fun part => DirectiveText.directive? ⟨part⟩ with
  | [] => errors
  | ds => ⟨ds⟩

def decisive? (f : LogFilter) (o : LogOrigin) : Option LogDirective :=
  (f.directives.filter (·.covers o)).foldl
    (fun best d => match best with
      | none => some d
      | some b => if d.overrides b then some d else some b) none

def lets (f : LogFilter) (o : LogOrigin) : Bool :=
  match f.decisive? o with
  | none => false
  | some d => o.level.rank ≤ d.limit

end LogFilter

end Display3270
