import Pruner.Diagnostic

namespace Pruner

structure Importation where
  path : String
  shown : String
  member : Option (String × String) := none
  star : Bool := false
  deriving DecidableEq, Repr

namespace Importation

def lastPart (path : String) : String :=
  String.ofList (path.toList.reverse.takeWhile (· != '.')).reverse

def firstPart (path : String) : String :=
  String.ofList (path.toList.takeWhile (· != '.'))

def isRenamed (i : Importation) (name : String) : Bool :=
  lastPart i.path != name

def ofPath (path name : String) : Importation :=
  { path, shown := if lastPart path == name then path else path ++ " as " ++ name }

def ofDotted (path : String) : Importation :=
  { path, shown := path }

def ofMember (source member name : String) : Importation :=
  let path := if source.toList.getLast? == some '.' then source ++ member
    else source ++ "." ++ member
  { path
    shown := if member == name then path else path ++ " as " ++ name
    member := some (source, member) }

def starName (source : String) : String :=
  source ++ ".*"

def ofStar (source : String) : Importation :=
  { path := source
    shown := if source.toList.getLast? == some '.' then "from " ++ source ++ " import *"
      else starName source
    star := true }

end Importation

inductive Referent
  | fixed
  | assigned
  | typed
  | imported (importation : Importation)
  | exports (names : List String)
  deriving DecidableEq, Repr

structure Binding where
  referent : Referent
  line : Nat
  used : Bool := false
  deriving DecidableEq, Repr

namespace Binding

def exports? (b : Binding) : Option (List String) :=
  match b.referent with
  | .exports names => some names
  | _ => none

def importation? (b : Binding) : Option Importation :=
  match b.referent with
  | .imported i => some i
  | _ => none

def starSource? (b : Binding) : Option String :=
  match b.referent with
  | .imported i => if i.star then some i.path else none
  | _ => none

end Binding

inductive ScopeKind
  | whole
  | body
  | function
  | comprehension
  deriving DecidableEq, Repr

structure Scope where
  kind : ScopeKind
  entries : List (String × Binding) := []
  starred : Bool := false
  /-- The variables are read as a whole. -/
  readWhole : Bool := false
  /-- Variables that are not reported. -/
  exempt : List String :=
    ["__tracebackhide__", "__traceback_info__", "__traceback_supplement__"]

namespace Scope

def find? (s : Scope) (name : String) : Option Binding :=
  s.entries.lookup name

def contains (s : Scope) (name : String) : Bool :=
  (s.find? name).isSome

def put (name : String) (b : Binding) : List (String × Binding) → List (String × Binding)
  | [] => [(name, b)]
  | (n, c) :: rest => if n == name then (name, b) :: rest else (n, c) :: put name b rest

def set (s : Scope) (name : String) (b : Binding) : Scope :=
  { s with entries := put name b s.entries }

def erase (s : Scope) (name : String) : Scope :=
  { s with entries := s.entries.filter (·.1 != name) }

def markUsed (s : Scope) (name : String) : Scope :=
  { s with entries := s.entries.map fun (n, b) =>
      if n == name then (n, { b with used := true }) else (n, b) }

def markStars (s : Scope) : Scope :=
  { s with entries := s.entries.map fun (n, b) =>
      if b.starSource?.isSome then (n, { b with used := true }) else (n, b) }

def starSources (s : Scope) : List String :=
  s.entries.filterMap (·.2.starSource?)

end Scope

end Pruner
