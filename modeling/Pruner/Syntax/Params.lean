import Pruner.Syntax.Expression

namespace Pruner.Syntax

open LexemeParser

namespace Nested

structure ParamsFound where
  positionalOnly : List Param := []
  positional : List Param := []
  defaults : List Expr := []
  starred : Bool := false
  rest : Option Param := none
  keywordOnly : List Param := []
  keywordDefaults : List (Option Expr) := []
  keywordRest : Option Param := none

def ParamsFound.toParams (p : ParamsFound) : Params :=
  .mk p.positionalOnly p.positional p.rest p.keywordOnly p.keywordRest p.defaults p.keywordDefaults

def param (hint : LexemeParser (Option Expr)) : LexemeParser Param := do
  let name ← word
  return .mk name (← hint)

def hintAfterColon (e : LexemeParser Expr) : LexemeParser (Option Expr) := do
  if ← takeOp ":" then return some (← e) else return none

def paramEntry (g : Nested) (typed : Bool) (found : ParamsFound) :
    LexemeParser (ParamsFound × Bool) := do
  let hint : LexemeParser (Option Expr) := if typed then hintAfterColon g.expression else pure none
  let starHint : LexemeParser (Option Expr) :=
    if typed then hintAfterColon (starredOr g.primary g.expression) else pure none
  match ← peekKind with
  | .op "/" =>
    skip
    if found.starred || found.positional.isEmpty || !found.positionalOnly.isEmpty then failure
    return ({ found with positionalOnly := found.positional, positional := [] }, false)
  | .op "**" =>
    skip
    let p ← param hint
    if found.starred && found.rest.isNone && found.keywordOnly.isEmpty then failure
    return ({ found with keywordRest := some p }, true)
  | .op "*" =>
    skip
    if found.starred then failure
    if ← atOp "," then return ({ found with starred := true }, false)
    let p ← param starHint
    return ({ found with starred := true, rest := some p }, false)
  | _ =>
    let p ← param hint
    let default ← if ← takeOp "=" then some <$> g.expression else pure none
    if found.starred then
      return ({ found with
        keywordOnly := found.keywordOnly ++ [p]
        keywordDefaults := found.keywordDefaults ++ [default] }, false)
    else
      match default with
      | some e =>
        return ({ found with
          positional := found.positional ++ [p], defaults := found.defaults ++ [e] }, false)
      | none =>
        if !found.defaults.isEmpty then failure
        return ({ found with positional := found.positional ++ [p] }, false)

def paramsUntil (g : Nested) (typed : Bool) (close : String) :
    (fuel : List Lexeme) → ParamsFound → LexemeParser ParamsFound
  | [], _ => failure
  | _ :: fuel, found => do
    if ← atOp close then return found
    let (found, last) ← paramEntry g typed found
    if ← takeOp "," then
      if last then
        if ← atOp close then return found else failure
      else paramsUntil g typed close fuel found
    else if ← atOp close then return found
    else failure

def params (g : Nested) (typed : Bool) (close : String) : LexemeParser Params := do
  let found ← fun lexemes => paramsUntil g typed close lexemes {} lexemes
  if found.starred && found.rest.isNone && found.keywordOnly.isEmpty then failure
  return found.toParams

def expressionNext (g : Nested) : LexemeParser Expr := do
  if ← takeKeyword "lambda" then
    let ps ← params g false ":"
    op ":"
    return .lambda ps (← g.expression)
  else
    let body ← disjunction (primaryNext g)
    if ← takeKeyword "if" then
      let test ← disjunction (primaryNext g)
      keyword "else"
      return .conditional test body (← g.expression)
    else return body

end Nested

mutual

def expression : (depth : Nat) → LexemeParser Expr
  | 0, _ => none
  | depth + 1, lexemes =>
    Nested.expressionNext ⟨expression depth, primary depth, field? depth⟩ lexemes

def primary : (depth : Nat) → LexemeParser Expr
  | 0, _ => none
  | depth + 1, lexemes =>
    Nested.primaryNext ⟨expression depth, primary depth, field? depth⟩ lexemes

def field? : (depth : Nat) → Nat → Text → Option Expr
  | 0, _, _ => none
  | depth + 1, line, text => do
    let lexemes ← lex? line text
    let all := Nested.starExpressions (Nested.starredOr (primary depth) (expression depth))
    (all lexemes).map (·.1)

end

def nested (depth : Nat) : Nested := ⟨expression depth, primary depth, field? depth⟩

namespace Nested

def starExpressionList (g : Nested) : LexemeParser Expr :=
  starExpressions (starredOr g.primary g.expression)

def yieldOrExpressions (g : Nested) : LexemeParser Expr := do
  if ← atKeyword "yield" then yieldExpression g.starExpressionList g.expression
  else g.starExpressionList

end Nested

def parseExpression? (source : Text) : Option Expr := do
  let lexemes ← lex? 1 source
  let g := nested ((normalizeLineEnds source).length + 1)
  let line : LexemeParser Expr := do
    let e ← Nested.starExpressions g.expression
    discard (many (expect .newline))
    expect .finish
    return e
  (line lexemes).map (·.1)

end Pruner.Syntax
