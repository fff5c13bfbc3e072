import Pruner.Fault

namespace Pruner

inductive Problem
  | unusedImport (name : Text)
  | unusedVariable (name : Text)
  | starImport (source : Text)
  | starUsage (name sources : Text)
  | repeatedKey (key : Key)
  | other (name : Text)

structure Diagnostic where
  line : Int
  problem : Problem

namespace Diagnostic

open Pruner.Text

def unusedImportLines (ds : List Diagnostic) : List Int :=
  ds.filterMap fun d => match d.problem with
    | .unusedImport _ => some d.line
    | _ => none

/-- The shortest text of at least one character that stands between two single quotes, the first
pair that has one. -/
def betweenQuotes? : Text → Option Text
  | [] => none
  | c :: cs =>
    if c == '\'' then
      match cs with
      | first :: rest =>
        let name := rest.takeWhile (· != '\'')
        if name.length < rest.length && first != '\n' && !name.contains '\n' then
          some (first :: name)
        else betweenQuotes? cs
      | [] => none
    else betweenQuotes? cs

def shownName (name : Text) : Edit Text :=
  match betweenQuotes? (quoted name ++ " imported but unused".toList) with
  | some shown => .ok shown
  | none => .error .unreadableName

def unusedImportNames : List Diagnostic → Edit (List (Int × Text))
  | [] => .ok []
  | d :: ds => do
    match d.problem with
    | .unusedImport name =>
      let shown ← shownName name
      let rest ← unusedImportNames ds
      .ok ((d.line, shown) :: rest)
    | _ => unusedImportNames ds

def starImportLines (ds : List Diagnostic) : List Int :=
  ds.filterMap fun d => match d.problem with
    | .starImport _ => some d.line
    | _ => none

def starUsages (ds : List Diagnostic) : List (Int × Text × Text) :=
  ds.filterMap fun d => match d.problem with
    | .starUsage name sources => some (d.line, name, sources)
    | _ => none

def unusedVariableLines (ds : List Diagnostic) : List Int :=
  ds.filterMap fun d => match d.problem with
    | .unusedVariable _ => some d.line
    | _ => none

def repeatedKeys (ds : List Diagnostic) : List (Int × Key) :=
  ds.filterMap fun d => match d.problem with
    | .repeatedKey key => some (d.line, key)
    | _ => none

/-- Entries with equal keys together, in the order in which the keys first come; a group has the
key that came first. -/
def groupByKey : List (Int × Key) → List (Key × List (Int × Key)) :=
  List.foldl (fun groups entry => insert entry groups) []
where
  insert (entry : Int × Key) : List (Key × List (Int × Key)) → List (Key × List (Int × Key))
    | [] => [(entry.2, [entry])]
    | (key, entries) :: groups =>
      if key.same entry.2 then (key, entries ++ [entry]) :: groups
      else (key, entries) :: insert entry groups

def lastOnLine (ds : List Diagnostic) : List (Int × Nat) :=
  let lines := (ds.map (·.line)).eraseDups
  lines.filterMap fun n =>
    let positions := ds.zipIdx.filterMap fun (d, i) => if d.line == n then some i else none
    positions.getLast?.map (n, ·)

end Diagnostic

end Pruner
