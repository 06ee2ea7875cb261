import Display3270.Text.BreakClass

namespace Display3270

inductive Pictograph
  | none
  | marked
  | joined
  deriving DecidableEq

inductive Conjunct
  | none
  | consonant
  | linked
  deriving DecidableEq

structure ClusterState where
  last : BreakClass
  oddRegional : Bool
  pictograph : Pictograph
  conjunct : Conjunct

namespace ClusterState

def first (k : BreakClass) : ClusterState :=
  ⟨k, k = .regional, if k = .pictograph then .marked else .none,
    if k = .consonant then .consonant else .none⟩

def nextPictograph (p : Pictograph) : BreakClass → Pictograph
  | .pictograph => .marked
  | .extend | .nonJoiner | .linker => if p = .marked then .marked else .none
  | .joiner => if p = .marked then .joined else .none
  | _ => .none

def nextConjunct (c : Conjunct) : BreakClass → Conjunct
  | .consonant => .consonant
  | .linker => if c = .none then .none else .linked
  | .extend | .joiner => c
  | _ => .none

def next (s : ClusterState) (k : BreakClass) : ClusterState :=
  ⟨k, k = .regional && !s.oddRegional, nextPictograph s.pictograph k,
    nextConjunct s.conjunct k⟩

def isBreaker : BreakClass → Bool
  | .control | .cr | .lf => true
  | _ => false

def joinsSyllable : BreakClass → BreakClass → Bool
  | .leading, .leading | .leading, .vowel | .leading, .openSyllable
  | .leading, .closedSyllable => true
  | .openSyllable, .vowel | .openSyllable, .trailing | .vowel, .vowel | .vowel, .trailing => true
  | .closedSyllable, .trailing | .trailing, .trailing => true
  | _, _ => false

def attaches : BreakClass → Bool
  | .extend | .nonJoiner | .linker | .joiner | .spacingMark => true
  | _ => false

def joins (s : ClusterState) (k : BreakClass) : Bool :=
  if s.last = .cr ∧ k = .lf then true
  else if isBreaker s.last || isBreaker k then false
  else joinsSyllable s.last k || attaches k || s.last == .prepend ||
    (s.conjunct == .linked && k == .consonant) ||
    (s.pictograph == .joined && k == .pictograph) ||
    (s.oddRegional && k == .regional)

end ClusterState

def clustersFrom (s : ClusterState) (cluster : List Char) : List Char → List (List Char)
  | [] => [cluster.reverse]
  | c :: cs =>
    let k := breakClass c
    if s.joins k then clustersFrom (s.next k) (c :: cluster) cs
    else cluster.reverse :: clustersFrom (.first k) [c] cs

def clusters : List Char → List (List Char)
  | [] => []
  | c :: cs => clustersFrom (.first (breakClass c)) [c] cs

def graphemes (s : String) : List String :=
  (clusters s.toList).map String.ofList

end Display3270
