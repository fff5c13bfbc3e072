import Pruner.Scope.Basic
import Pruner.Syntax.Tree

namespace Pruner.Scope

open Pruner.Syntax

inductive Typing
  | outside
  | quoted
  | plain
  deriving DecidableEq, Repr

structure Place where
  scope : Nat
  outer : List Nat := []
  typing : Typing := .outside
  conditional : Bool := false
  line : Option Nat := none

namespace Place

def scopes (p : Place) : List Nat :=
  p.scope :: p.outer

def lineOf (p : Place) (line : Nat) : Nat :=
  p.line.getD line

end Place

inductive Work
  | body (params : Params) (statements : List Stmt)
  | result (params : Params) (value : Expr)
  | type (e : Expr)
  | typeText (source : List Nat)

structure Task where
  place : Place
  work : Work

structure State where
  scopes : Array Scope := #[]
  ended : List Nat := []
  tasks : List Task := []
  found : List Diagnostic := []
  typesLater : Bool := false

/-- A step of the walk. It fails where the tree is too deep, or where an export list is extended
that cannot be read. -/
abbrev Walk := ReaderT Place (StateT State Option)

namespace Walk

def report (line : Nat) (problem : Problem) : Walk Unit := do
  let place ← read
  modify fun s => { s with found := ⟨place.lineOf line, problem⟩ :: s.found }

def scopeAt (i : Nat) : Walk Scope := do
  return (← get).scopes[i]?.getD { kind := .whole }

def current : Walk Scope := do
  scopeAt (← read).scope

def modifyAt (i : Nat) (f : Scope → Scope) : Walk Unit :=
  modify fun s => { s with scopes := s.scopes.modify i f }

def modifyCurrent (f : Scope → Scope) : Walk Unit := do
  modifyAt (← read).scope f

def inScope (kind : ScopeKind) (step : Walk Unit) : Walk Unit := do
  let i := (← get).scopes.size
  modify fun s => { s with scopes := s.scopes.push { kind } }
  withReader (fun p => { p with scope := i, outer := p.scopes }) step
  modify fun s => { s with ended := i :: s.ended }

def withTyping (typing : Typing) (step : Walk Unit) : Walk Unit :=
  withReader (fun p => { p with typing }) step

def maybe (step : Walk Unit) : Walk Unit :=
  withReader (fun p => { p with conditional := true }) step

def later (work : Work) : Walk Unit := do
  let place ← read
  modify fun s => { s with tasks := s.tasks ++ [⟨place, work⟩] }

/-- Binds a name in scope `i`. The mark of the binding that the innermost scope has of the name is
passed on, and a type alone does not replace a binding. -/
def bindAt (i : Nat) (name : String) (b : Binding) : Walk Unit := do
  match (← current).find? name with
  | some old =>
    if b.referent != .typed then modifyAt i (·.set name { b with used := old.used })
  | none => modifyAt i (·.set name b)

def bindName (name : String) (referent : Referent) (line : Nat) : Walk Unit := do
  let place ← read
  bindAt place.scope name { referent, line := place.lineOf line }

def outsideComprehensions (scopes : Array Scope) : List Nat → Option Nat
  | [] => none
  | i :: rest =>
    if (scopes[i]?.map (·.kind)) == some .comprehension then outsideComprehensions scopes rest
    else some i

def bindOutside (name : String) (line : Nat) : Walk Unit := do
  let place ← read
  let i := (outsideComprehensions (← get).scopes place.scopes).getD place.scope
  bindAt i name { referent := .assigned, line := place.lineOf line }

def markAt (i : Nat) (name : String) (b : Binding) : Walk Unit := do
  modifyAt i (·.markUsed name)
  match b.importation? with
  | some importation =>
    if importation.isRenamed name then modifyAt i (·.markUsed importation.path)
  | none => return ()

def typedCounts : Walk Bool := do
  return (← read).typing == .quoted || (← get).typesLater

inductive Lookup
  | found
  /-- Not found; whether a scope on the way has all names of some module. -/
  | missing (starred : Bool)

/-- Looks a name up in scopes from the inside out and marks its binding. The scope of a class is
seen from inside it and from comprehensions in it, and not from functions. -/
def lookUp (name : String) : (members : Option Bool) → (starred : Bool) → List Nat → Walk Lookup
  | _, starred, [] => return .missing starred
  | members, starred, i :: rest => do
    let scope ← scopeAt i
    if scope.kind == .body && name == "__class__" then return .found
    if scope.kind == .body && members == some false then lookUp name members starred rest
    else
      match scope.find? name with
      | some b =>
        if b.referent == .typed && !(← typedCounts) then
          modifyAt i (·.markUsed name)
          lookUp name members starred rest
        else
          markAt i name b
          return .found
      | none =>
        let members := if members == some false then members
          else some (scope.kind == .comprehension)
        lookUp name members (starred || scope.starred) rest

def useStars : List Nat → Walk (List String)
  | [] => return []
  | i :: rest => do
    let sources := (← scopeAt i).starSources
    modifyAt i Scope.markStars
    return sources ++ (← useStars rest)

def shownSources (sources : List String) : Text :=
  Text.join ", ".toList (Text.sort (sources.map String.toList))

def load (name : String) (line : Nat) : Walk Unit := do
  let scopes := (← read).scopes
  match ← lookUp name none false scopes with
  | .found | .missing false => return ()
  | .missing true =>
    let sources ← useStars scopes
    report line (.starUsage name.toList (shownSources sources))

def delete (name : String) : Walk Unit := do
  unless (← read).conditional do
    let scope ← current
    if scope.kind == .function && scope.exempt.contains name then
      modifyCurrent fun s => { s with exempt := s.exempt.filter (· != name) }
    else modifyCurrent (·.erase name)

/-- Declares a name of an outer scope: it counts as used in every scope but that of the module,
and there if it is not bound yet. -/
def declareOuter (name : String) : Walk Unit := do
  let binding : Binding := { referent := .fixed, line := 0, used := true }
  let inner := (← read).scopes.dropLast
  for i in (← read).scopes.drop inner.length do
    unless (← scopeAt i).contains name do
      modifyAt i (·.set name binding)
  for i in inner do
    modifyAt i (·.set name binding)

def nearest? (name : String) : List Nat → Walk (Option Binding)
  | [] => return none
  | i :: rest => do
    match (← scopeAt i).find? name with
    | some b => return some b
    | none => nearest? name rest

def typingModules : List String :=
  ["typing", "typing_extensions"]

def typingMember? (e : Expr) : Walk (Option String) := do
  let scopes := (← read).scopes
  match e with
  | .name _ id _ =>
    match ← nearest? id scopes with
    | some ⟨.imported { member := some (source, member), .. }, _, _⟩ =>
      return if typingModules.contains source then some member else none
    | _ => return none
  | .attribute (.name _ id _) attr =>
    match ← nearest? id scopes with
    | some ⟨.imported i, _, _⟩ => return if typingModules.contains i.path then some attr else none
    | _ => return none
  | _ => return none

end Walk

end Pruner.Scope
