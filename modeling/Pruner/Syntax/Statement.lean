import Pruner.Syntax.PatternGrammar

namespace Pruner.Syntax

open LexemeParser Nested

namespace Statement

variable (g : Nested)

def assignment : LexemeParser Stmt := do
  let line ← line
  let first ← g.yieldOrExpressions
  match ← peekKind with
  | .op "=" =>
    let rest ← many1 (do op "="; g.yieldOrExpressions)
    let targets := first :: rest.dropLast
    match targets.mapM (·.asTarget? .store), rest.getLast? with
    | some ts, some value => return .assign line ts value
    | _, _ => failure
  | .op ":" =>
    skip
    let target ← match first.asSingleTarget? with
      | some t => pure t
      | none => failure
    let hint ← g.expression
    let value ← if ← takeOp "=" then some <$> g.yieldOrExpressions else pure none
    return .annAssign line target hint value
  | .op text =>
    if ["+=", "-=", "*=", "@=", "/=", "%=", "&=", "|=", "^=", "<<=", ">>=", "**=", "//="].contains text
    then
      skip
      match first.asSingleTarget? with
      | some t => return .augAssign line t (← g.yieldOrExpressions)
      | none => failure
    else return .expression first
  | _ => return .expression first

def dottedPath : LexemeParser String := do
  let first ← word
  let rest ← many (do op "."; word)
  return ".".intercalate (first :: rest)

def importAlias : LexemeParser (Option String) := do
  if ← takeKeyword "as" then some <$> word else return none

def importItem : LexemeParser ImportItem := do
  let path ← word
  return ⟨path, ← importAlias⟩

def importStatement : LexemeParser Stmt := do
  let line ← line
  keyword "import"
  let items ← commaSeparated do
    let path ← dottedPath
    return ⟨path, ← importAlias⟩
  return .imports line items

def importedItems : LexemeParser (List ImportItem) := do
  if ← takeOp "*" then return [⟨"*", none⟩]
  if ← takeOp "(" then
    let items ← commaSeparated importItem
    discard (takeOp ",")
    op ")"
    return items
  let items ← commaSeparated importItem
  if ← atOp "," then failure
  return items

def importFromStatement : LexemeParser Stmt := do
  let line ← line
  keyword "from"
  let dots ← many (anyOp [".", "..."])
  let level := dots.foldl (fun n dot => n + dot.length) 0
  let path ← optional dottedPath
  if level = 0 ∧ path.isNone then failure
  keyword "import"
  let items ← importedItems
  return .importFrom line level path items

def deleteStatement : LexemeParser Stmt := do
  keyword "del"
  let items ← commaSeparated g.primary
  discard (takeOp ",")
  unless (← atOp ";") || (← peekKind) == .newline do failure
  match items.mapM (·.asTarget? .delete) with
  | some ts => return .delete ts
  | none => failure

def simple : LexemeParser Stmt := do
  match ← peekKind with
  | .keyword "pass" => skip; return .simple
  | .keyword "break" => skip; return .simple
  | .keyword "continue" => skip; return .simple
  | .keyword "return" => skip; return .giveBack (← optional g.starExpressionList)
  | .keyword "import" => importStatement
  | .keyword "from" => importFromStatement
  | .keyword "raise" =>
    skip
    match ← optional g.expression with
    | none => return .raise none none
    | some e =>
      let cause ← if ← takeKeyword "from" then some <$> g.expression else pure none
      return .raise (some e) cause
  | .keyword "del" => deleteStatement g
  | .keyword "assert" =>
    skip
    let test ← g.expression
    let message ← if ← takeOp "," then some <$> g.expression else pure none
    return .assertion test message
  | .keyword "global" => skip; return .outer (← commaSeparated word)
  | .keyword "nonlocal" => skip; return .outer (← commaSeparated word)
  | _ => assignment g

def simpleLine : LexemeParser (List Stmt) := do
  let first ← simple g
  let rest ← many (do op ";"; simple g)
  discard (takeOp ";")
  expect .newline
  return first :: rest

variable (statement : LexemeParser (List Stmt))

def block : LexemeParser (List Stmt) := do
  if (← peekKind) == .newline then
    skip
    expect .indent
    let body ← many1 statement
    expect .dedent
    return body.flatten
  else simpleLine g

def colonBlock : LexemeParser (List Stmt) := do
  op ":"
  block g statement

def elseBlock : LexemeParser (List Stmt) := do
  if ← takeKeyword "else" then colonBlock g statement else return []

def branches : LexemeParser Stmt := do
  let arm : LexemeParser (Expr × List Stmt) := do
    let test ← namedExpression g
    return (test, ← colonBlock g statement)
  let (test, body) ← arm
  let others ← many (do keyword "elif"; arm)
  let last ← elseBlock g statement
  let orelse := others.foldr (fun (test, body) rest => [Stmt.branch test body rest]) last
  return .branch test body orelse

def withItem : LexemeParser (Expr × Option Expr) := do
  let e ← g.expression
  let bound : LexemeParser Expr := do
    keyword "as"
    let t ← target g.primary
    unless (← atOp ",") || (← atOp ")") || (← atOp ":") do failure
    return t
  return (e, ← optional bound)

def withItems : LexemeParser (List (Expr × Option Expr)) := do
  let parenthesized : LexemeParser (List (Expr × Option Expr)) := do
    op "("
    let items ← commaSeparated (withItem g)
    discard (takeOp ",")
    op ")"
    op ":"
    return items
  parenthesized <|> (do
    let items ← commaSeparated (withItem g)
    op ":"
    return items)

def handler (star : Bool) : LexemeParser Handler := do
  let line ← line
  keyword "except"
  if star then op "*"
  if !star && (← atOp ":") then
    return .mk line none none (← colonBlock g statement)
  let type ← g.expression
  let name ← if ← takeKeyword "as" then some <$> word else pure none
  return .mk line (some type) name (← colonBlock g statement)

def tryStatement : LexemeParser Stmt := do
  keyword "try"
  let body ← colonBlock g statement
  let finallyBlock : LexemeParser (List Stmt) := do
    if ← takeKeyword "finally" then colonBlock g statement else return []
  if ← atKeyword "finally" then
    return .tryBlock body [] [] (← finallyBlock)
  let handlers ← many1 (handler g statement false) <|> many1 (handler g statement true)
  let orelse ← elseBlock g statement
  return .tryBlock body handlers orelse (← finallyBlock)

def functionDef (decorators : List Expr) : LexemeParser Stmt := do
  keyword "def"
  let name ← word
  op "("
  let ps ← params g true ")"
  op ")"
  let returns ← if ← takeOp "->" then some <$> g.expression else pure none
  let body ← colonBlock g statement
  return .functionDef name ps body decorators returns

def classDef (decorators : List Expr) : LexemeParser Stmt := do
  keyword "class"
  let name ← word
  let found ← if ← takeOp "(" then arguments g false else pure {}
  let body ← colonBlock g statement
  return .classDef name found.args found.keywords body decorators

def decorated : LexemeParser Stmt := do
  let decorators ← many1 do
    op "@"
    let e ← namedExpression g
    expect .newline
    return e
  discard (takeKeyword "async" <* ahead (keyword "def")) <|> pure ()
  if ← atKeyword "class" then classDef g statement decorators
  else functionDef g statement decorators

def forLoop : LexemeParser Stmt := do
  keyword "for"
  let target ← targets g.primary
  keyword "in"
  let iter ← g.starExpressionList
  let body ← colonBlock g statement
  return .forLoop target iter body (← elseBlock g statement)

def withBlock : LexemeParser Stmt := do
  keyword "with"
  let items ← withItems g
  return .withBlock items (← block g statement)

/-- One `case`; patterns nest at most as deep as there are lexemes. -/
def caseBlock : LexemeParser Case := do
  expect (.word "case")
  let p ← patternOrSequence (pattern g (← get))
  let guard ← if ← takeKeyword "if" then some <$> namedExpression g else pure none
  return .mk p guard (← colonBlock g statement)

def subject : LexemeParser Expr := do
  let line ← line
  let item := starredOr g.primary (namedExpression g)
  let isStar ← atOp "*"
  let first ← item
  if ← takeOp "," then
    let rest ← many (do let e ← item; discard (op "," <|> ahead (op ":")); return e)
    return .tuple line (first :: rest)
  if isStar then failure
  return first

/-- A `match` statement up to its first `case`; its name is no keyword, so it may turn out to be
something else. -/
def matchHead : LexemeParser Expr := do
  expect (.word "match")
  let e ← subject g
  op ":"
  expect .newline
  expect .indent
  return e

def matchStatement : LexemeParser Stmt := do
  let e ← matchHead g
  let cases ← many1 (caseBlock g statement)
  expect .dedent
  return .matchCases e cases

def any : LexemeParser (List Stmt) := do
  let one (p : LexemeParser Stmt) : LexemeParser (List Stmt) := do return [← p]
  match ← peekKind with
  | .keyword "if" => skip; one (branches g statement)
  | .keyword "while" =>
    skip
    let test ← namedExpression g
    let body ← colonBlock g statement
    return [.whileLoop test body (← elseBlock g statement)]
  | .keyword "for" => one (forLoop g statement)
  | .keyword "try" => one (tryStatement g statement)
  | .keyword "with" => one (withBlock g statement)
  | .keyword "def" => one (functionDef g statement [])
  | .keyword "class" => one (classDef g statement [])
  | .op "@" => one (decorated g statement)
  | .keyword "async" =>
    skip
    match ← peekKind with
    | .keyword "def" => one (functionDef g statement [])
    | .keyword "for" => one (forLoop g statement)
    | .keyword "with" => one (withBlock g statement)
    | _ => failure
  | .word "match" => one (matchStatement g statement) <|> simpleLine g
  | _ => simpleLine g

end Statement

def statement (g : Nested) : (depth : Nat) → LexemeParser (List Stmt)
  | 0, _ => none
  | depth + 1, lexemes => Statement.any g (statement g depth) lexemes

def parseModule? (source : Text) : Option (List Stmt) := do
  let lexemes ← lex? 1 source
  let g := nested (source.length + 1)
  let all : LexemeParser (List Stmt) := do
    let body ← many (statement g maxBlocks)
    expect .finish
    return body.flatten
  (all lexemes).map (·.1)

end Pruner.Syntax
