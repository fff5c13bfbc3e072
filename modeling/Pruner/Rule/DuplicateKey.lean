import Pruner.Token.Scan
import Pruner.Diagnostic

namespace Pruner.DuplicateKey

open Pruner.Text Pruner.Line

def beforeLastComma? (t : Text) : Option Text :=
  match t.reverse.dropWhile isBlank with
  | ',' :: rest => if rest.contains '\n' then none else some rest.reverse
  | _ => none

def valueAfter? (t : Text) : Option Text :=
  match trimLeft t with
  | ':' :: rest => beforeLastComma? (trimLeft rest)
  | _ => none

/-- The longest key, on one line, after which a value and a comma follow, and that value. -/
def longestKey? : Text → Option (Text × Text)
  | [] => none
  | c :: cs =>
    let longer := if c == '\n' then none else (longestKey? cs).map fun (key, v) => (c :: key, v)
    longer.or ((valueAfter? (c :: cs)).map ([], ·))

def entryParts? (line : Text) : Option (Text × Text) :=
  longestKey? (trimLeft line)

def hasKey (line : Text) (key : Key) : Edit Bool :=
  if line.contains '#' then .ok false
  else
    match entryParts? line with
    | none => .ok false
    | some (candidate, value) =>
      match Literal.ofText candidate with
      | .error e =>
        match Fault.ofLiteralError? e with
        | some fault => .error fault
        | none => .ok false
      | .ok v => .ok (!isPartial value [] && v.isKey key)

/-- The line that a diagnostic points at; numbers below one count from the end. -/
def lineAt (lines : List Text) (number : Int) : Edit Text :=
  let index := number - 1
  let index := if index < 0 then index + lines.length else index
  if index < 0 then .error .noSuchLine
  else
    match lines[index.toNat]? with
    | some line => .ok line
    | none => .error .noSuchLine

def allHaveKey (lines : List Text) : List (Int × Key) → Edit Bool
  | [] => .ok true
  | (number, key) :: rest => do
    let line ← lineAt lines number
    let found ← hasKey line key
    let others ← allHaveKey lines rest
    .ok (found && others)

def goodLines (lines : List Text) : List (Key × List (Int × Key)) → Edit (List Int)
  | [] => .ok []
  | (_, entries) :: groups => do
    let good ← allHaveKey lines entries
    let rest ← goodLines lines groups
    .ok (if good then entries.map (·.1) ++ rest else rest)

def removableLines (ds : List Diagnostic) (source : Text) : Edit (List Int) :=
  goodLines (pieces (· == '\n') source) (Diagnostic.groupByKey (Diagnostic.repeatedKeys ds))

/-- A line with a repeated key: the first marked line goes, the others stay. -/
def filterMarked (line : Text) (number : Int) (marked : List Int) : Text :=
  if marked.contains number && marked.all (number ≤ ·) then [] else line

end Pruner.DuplicateKey
