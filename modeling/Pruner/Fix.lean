import Pruner.StandardModule
import Pruner.Rule.Import
import Pruner.Rule.Variable
import Pruner.Rule.StarImport
import Pruner.Rule.UselessPass
import Pruner.Rule.DuplicateKey

namespace Pruner

open Pruner.Text

structure Options where
  additionalImports : List Text := []
  expandStarImports : Bool := false
  removeAllUnusedImports : Bool := false
  removeDuplicateKeys : Bool := false
  removeUnusedVariables : Bool := false
  deriving DecidableEq, Repr

def Options.allowed (options : Options) : List Text :=
  StandardModule.removable ++ options.additionalImports

structure Marks where
  imports : List Int
  importNames : List (Int × Text)
  stars : List Int
  starNames : List Text
  assignments : List Int
  keys : List Int

namespace Fix

def mayExpandStars (options : Options) (source : Text) : Bool :=
  options.expandStarImports && !hasWord "__all__".toList source && !hasWord "del".toList source

/-- The lines whose star is expanded: of the only star import, if a name comes from it. -/
def markedStars (options : Options) (source : Text) (ds : List Diagnostic) : List Int :=
  let lines := (Diagnostic.starImportLines ds).eraseDups
  if mayExpandStars options source && lines.length ≤ 1 && !(Diagnostic.starUsages ds).isEmpty then
    lines
  else []

def marks (options : Options) (source : Text) (ds : List Diagnostic) : Edit Marks := do
  let importNames ← Diagnostic.unusedImportNames ds
  let keys ← if options.removeDuplicateKeys then DuplicateKey.removableLines ds source else .ok []
  .ok {
    imports := Diagnostic.unusedImportLines ds
    importNames
    stars := markedStars options source ds
    starNames := (Diagnostic.starUsages ds).map (·.2.1)
    assignments := if options.removeUnusedVariables then Diagnostic.unusedVariableLines ds else []
    keys }

def editLine (options : Options) (marks : Marks) (number : Nat) (previous line : Text) :
    Edit Text :=
  -- A comment protects its line from every rule.
  if line.contains '#' then .ok line
  else if marks.imports.contains number then
    let unused := (marks.importNames.filter (·.1 == (number : Int))).map (·.2)
    Import.filterUnused line unused options.removeAllUnusedImports options.allowed previous
  else if marks.assignments.contains number then Variable.filterUnused line []
  else if marks.keys.contains number then .ok (DuplicateKey.filterMarked line number marks.keys)
  else if marks.stars.contains number then StarImport.expand line marks.starNames
  else .ok line

def editLines (options : Options) (marks : Marks) :
    (number : Nat) → (previous : Text) → List Text → Edit (List Text)
  | _, _, [] => .ok []
  | number, previous, line :: rest => do
    let piece ← editLine options marks number previous line
    let pieces ← editLines options marks (number + 1) line rest
    .ok (piece :: pieces)

def filterCode (options : Options) (ds : List Diagnostic) (source : Text) : Edit (List Text) := do
  let marks ← marks options source ds
  editLines options marks 1 [] (lines source)

def round (options : Options) (ds : List Diagnostic) (source : Text) : Edit Text := do
  let pieces ← filterCode options ds source
  .ok (UselessPass.filter pieces.flatten)

inductive Outcome
  | done (source : Text)
  | failed (fault : Fault)
  /-- The rounds that were allowed did not suffice. -/
  | unfinished
  deriving DecidableEq, Repr

structure Run where
  passes : List Text
  outcome : Outcome
  deriving DecidableEq, Repr

/-- Rounds until nothing changes, at most `rounds` of them. What the check finds may differ from
round to round; `index` is the number of the next one. -/
def loop (options : Options) (check : Nat → Text → List Diagnostic) :
    (rounds index : Nat) → Text → Run
  | 0, _, _ => ⟨[], .unfinished⟩
  | rounds + 1, index, source =>
    match round options (check index source) source with
    | .error fault => ⟨[source], .failed fault⟩
    | .ok next =>
      if next == source then ⟨[source], .done next⟩
      else
        let run := loop options check rounds (index + 1) next
        { run with passes := source :: run.passes }

-- The word may stand anywhere in the source, also in a string.
def effective (options : Options) (source : Text) : Options :=
  if occursIn "nonlocal".toList source then { options with removeUnusedVariables := false }
  else options

-- An empty source is not even checked.
def fixCode (options : Options) (check : Nat → Text → List Diagnostic) (rounds : Nat)
    (source : Text) : Run :=
  if source.isEmpty then ⟨[], .done source⟩
  else loop (effective options source) check rounds 0 source

end Fix

end Pruner
