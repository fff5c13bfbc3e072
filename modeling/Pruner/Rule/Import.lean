import Pruner.Token.Scan
import Pruner.Fault

namespace Pruner.Import

open Pruner.Text Pruner.Line

def importWord : Text := "import".toList

def fromWord : Text := "from".toList

def isFrom (line : Text) : Bool :=
  startsWith fromWord (trimLeft line)

def hasForbidden (line : Text) : Bool :=
  line.contains '\\' || line.contains '(' || line.contains ')' || line.contains ';'

def package (line : Text) : Edit (Option Text) :=
  if hasForbidden line then .error .unexpectedForm
  else if startsWith importWord (trimLeft line) || isFrom line then
    match words line with
    | _ :: word :: _ => .ok (some (word.takeWhile (· != '.')))
    | _ => .error .noPackage
  else .ok none

/-- Whether `t` starts with the word `from` and a module after it, and that module: everything up
to the next space. The last blank may belong to the module if nothing else follows. -/
def moduleAfterFrom? (t : Text) : Option Text :=
  if startsWith fromWord t then
    let rest := t.drop fromWord.length
    let blanks := (rest.takeWhile isBlank).length
    let starts := (List.range blanks).reverse.map (· + 1)
    (starts.find? fun n => (rest.drop n).head?.any (· != ' ')).map fun n =>
      (rest.drop n).takeWhile (· != ' ')
  else none

/-- The module of a `from` import, found in the text before the word `import`. `inside` says that
the character before the text is a word character. -/
def baseModule? (inside : Bool) : Text → Option Text
  | [] => none
  | c :: cs =>
    match if inside then none else moduleAfterFrom? (c :: cs) with
    | some m => some m
    | none => baseModule? (isWord c) cs

def filterFrom (line : Text) (unused : List Text) : Edit Text :=
  match cutAtWord? importWord false line with
  | none => .error .noImportWord
  | some (before, after) =>
    match baseModule? false before with
    | none => .error .noModule
    | some base =>
      let names := (commaPieces (trim after)).map fun x => base ++ ['.'] ++ trim x
      let kept := (names.filter (!unused.contains ·)).map (Text.erase (base ++ ['.']))
      if kept.isEmpty then .ok (passFor line)
      else .ok (before ++ "import ".toList ++ join ", ".toList (sort kept) ++ ending line)

def breakUp (line : Text) : Edit Text :=
  if hasForbidden line || line.contains '#' || isFrom line then .error .unexpectedForm
  else
    let newline := ending line
    if newline.isEmpty then .ok line
    else
      match cutAtWord? importWord false line with
      | none => .error .noImportWord
      | some (before, after) =>
        .ok ((sort (commaPieces after)).flatMap fun x =>
          before ++ "import ".toList ++ trim x ++ newline)

def filterUnused (line : Text) (unused : List Text) (removeAll : Bool) (allowed : List Text)
    (previous : Text) : Edit Text :=
  if isPartialImport line previous then .ok line
  else if line.contains ',' && !isFrom line then breakUp line
  else do
    let package ← package line
    if !removeAll && !package.any allowed.contains then .ok line
    else if line.contains ',' then filterFrom line unused
    else .ok (passFor line)

end Pruner.Import
