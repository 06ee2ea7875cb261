import Display3270.Json.Basic
import Display3270.Json.Cause

namespace Display3270

/-- What is wrong with a place in a text, for a reader that takes the value, for one that passes
over it, and for one that looks for the name of a variant. -/
structure Fault where
  read : Cause
  skip : Option Cause
  variant : Cause
  deriving DecidableEq

def Fault.all (c : Cause) : Fault := ⟨c, some c, c⟩

/-- What a text holds, in its own order, up to the place where it stops being JSON. A key is none
if its escapes spell no text. A container holds the fault that stands in place of its next comma or
its end. -/
inductive Draft
  | null
  | bool (b : Bool)
  | num (n : Number)
  | str (s : String)
  | arr (items : List Draft) (fault : Option Fault)
  | obj (members : List (Option String × Draft)) (fault : Option Fault)
  | fault (f : Fault)
  deriving Inhabited

namespace Draft

mutual

def ofJson : Json → Draft
  | .null => .null
  | .bool b => .bool b
  | .num n => .num n
  | .str s => .str s
  | .arr xs => .arr (ofItems xs) none
  | .obj ms => .obj (ofMembers ms) none

def ofItems : List Json → List Draft
  | [] => []
  | x :: xs => ofJson x :: ofItems xs

def ofMembers : List (String × Json) → List (Option String × Draft)
  | [] => []
  | (k, x) :: ms => (some k, ofJson x) :: ofMembers ms

end

def close (f : Option Fault) : Except Cause Unit :=
  match f with
  | none => .ok ()
  | some f => .error f.read

def depthLimit : Nat := 127

mutual

def value : Option Nat → Draft → Except Cause Json
  | _, .null => .ok .null
  | _, .bool b => .ok (.bool b)
  | _, .num n => .ok (.num n)
  | _, .str s => .ok (.str s)
  | limit, .arr items f =>
    if limit = some 0 then .error .illFormed
    else do
      let xs ← values (limit.map (· - 1)) items
      close f
      return .arr xs
  | limit, .obj members f =>
    if limit = some 0 then .error .illFormed
    else do
      let ms ← memberValues (limit.map (· - 1)) members
      close f
      return .obj (sortEntries ms)
  | _, .fault f => .error f.read

def values : Option Nat → List Draft → Except Cause (List Json)
  | _, [] => .ok []
  | limit, d :: ds => do
    let x ← value limit d
    let xs ← values limit ds
    return x :: xs

def memberValues : Option Nat → List (Option String × Draft) → Except Cause (List (String × Json))
  | _, [] => .ok []
  | _, (none, _) :: _ => .error .illFormed
  | limit, (some k, d) :: ms => do
    let x ← value limit d
    let xs ← memberValues limit ms
    return (k, x) :: xs

end

mutual

def skip : Draft → Except Cause Unit
  | .arr items f => do
    skipItems items
    skipFault f
  | .obj members f => do
    skipMembers members
    skipFault f
  | .fault f => skipFault (some f)
  | _ => .ok ()

def skipItems : List Draft → Except Cause Unit
  | [] => .ok ()
  | d :: ds => do
    skip d
    skipItems ds

def skipMembers : List (Option String × Draft) → Except Cause Unit
  | [] => .ok ()
  | (_, d) :: ms => do
    skip d
    skipMembers ms

def skipFault : Option Fault → Except Cause Unit
  | none => .ok ()
  | some f => match f.skip with
    | none => .ok ()
    | some c => .error c

end

end Draft

end Display3270
