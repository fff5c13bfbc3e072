import Pruner.Token.Scan
import Pruner.Fault

namespace Pruner.Variable

open Pruner.Text Pruner.Line

def splitNewline (line : Text) : Text × Text :=
  if endsWith ['\n'] line then (line.dropLast, ['\n']) else (line, [])

def beforeAsName? (body : Text) : Option Text :=
  match body.reverse with
  | ':' :: rest =>
    let name := rest.takeWhile isWord
    let front := rest.drop name.length
    if name.isEmpty then none
    else if startsWith " sa ".toList front then some (front.drop 4).reverse
    else none
  | _ => none

def dropExceptName? (line : Text) : Option Text :=
  let (body, newline) := splitNewline line
  match beforeAsName? body with
  | none => none
  | some front =>
    let clause := trimLeft front
    let types := clause.drop "except ".length
    let isPart (c : Char) : Bool := isBlank c || isWord c || c == ',' || c == '(' || c == ')'
    if startsWith "except ".toList clause && !types.isEmpty && types.all isPart then
      some (front ++ [':'] ++ newline)
    else none

def isName (value : Text) : Bool :=
  let rest := value.dropWhile isWord
  rest.length < value.length && rest.all isBlank

def isLiteralOrName (value : Text) : Edit Bool :=
  match Literal.ofText value with
  | .ok _ => .ok true
  | .error e =>
    match Fault.ofLiteralError? e with
    | some fault => .error fault
    | none =>
      .ok (["dict()", "list()", "set()"].any (fun s => s.toList == trim value) || isName value)

def filterUnused (line previous : Text) : Edit Text :=
  match dropExceptName? line with
  | some clause => .ok clause
  | none =>
    if isPartial line previous then .ok line
    else
      match pieces (· == '=') line with
      | [target, rest] =>
        let value := trimLeft rest
        if target.contains ',' then .ok line
        else do
          if ← isLiteralOrName value then .ok (passFor line)
          else .ok (indentation line ++ value)
      | _ => .ok line

end Pruner.Variable
