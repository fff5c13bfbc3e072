import Pruner.Syntax.LexemeParser
import Pruner.Syntax.Format

/-!
The grammar of expressions.

Every rule takes the parsers for expressions one level further in as an argument; the levels are
tied together in `expression`, whose first argument bounds how many there are.
-/
namespace Pruner.Syntax

open LexemeParser

structure Nested where
  expression : LexemeParser Expr
  primary : LexemeParser Expr
  field? : Nat → Text → Option Expr

namespace Nested

def leftAssociative (ops : List String) (item : LexemeParser Expr) : LexemeParser Expr := do
  let first ← item
  let rest ← many (do return (← anyOp ops, ← item))
  return rest.foldl (fun left (op, right) =>
    .binary left (if op == "+" then .add else if op == "-" then .sub else .other) right) first

def stringPart : LexemeParser (Nat × StringMark × Text) := do
  let l ← peek
  match l.kind with
  | .string mark body => skip; return (l.line, mark, body)
  | _ => failure

def piecesOf? (g : Nested) (line : Nat) (mark : StringMark) (body : Text) :
    Option (List FormatPiece) :=
  if mark.format then
    (formatPieces? g.field? mark.raw (body.length + 1) 0 line body).map (·.1)
  else (bodyPoints? mark body).map fun points => [.literal points]

/-- Adjacent strings, which form one: all bytes or none, and formatted if one of them is. -/
def strings (g : Nested) : LexemeParser Expr := do
  let line ← line
  let parts ← many1 stringPart
  let isBytes := parts.all (·.2.1.bytes)
  if !isBytes && parts.any (·.2.1.bytes) then failure
  let pieces ← (parts.mapM fun (line, mark, body) => piecesOf? g line mark body : Option _)
  let pieces := pieces.flatten
  if parts.any (·.2.1.format) then return .joined (joinPieces line pieces)
  else
    let points := pieces.flatMap fun
      | .literal points => points
      | .field _ => []
    return .constant line (if isBytes then .bytes points else .str points)

def namedExpression (g : Nested) : LexemeParser Expr := do
  if ← atWordThen ":=" then
    let line ← line
    let id ← word
    op ":="
    return .assignment (.name line id .store) (← g.expression)
  else
    let e ← g.expression
    if ← atOp ":=" then failure
    return e

def factor (operand : LexemeParser Expr) : (fuel : List Lexeme) → LexemeParser Expr
  | [] => failure
  | _ :: fuel => do
    match ← peekKind with
    | .op "+" => skip; return .unary .plus (← factor operand fuel)
    | .op "-" => skip; return .unary .minus (← factor operand fuel)
    | .op "~" => skip; return .unary .invert (← factor operand fuel)
    | _ =>
      let base ← operand
      if ← takeOp "**" then return .binary base .other (← factor operand fuel)
      else return base

def inversion (comparison : LexemeParser Expr) : LexemeParser Expr := do
  let nots ← many (keyword "not")
  let e ← comparison
  return nots.foldl (fun e _ => .unary .not e) e

def comparisonOp : LexemeParser Unit := do
  match ← peekKind with
  | .op text =>
    if ["==", "!=", "<", "<=", ">", ">="].contains text then skip else failure
  | .keyword "in" => skip
  | .keyword "not" => skip; keyword "in"
  | .keyword "is" => skip; discard (takeKeyword "not")
  | _ => failure

def booleanChain (word : String) (item : LexemeParser Expr) : LexemeParser Expr := do
  let first ← item
  let rest ← many (do keyword word; item)
  return if rest.isEmpty then first else .boolean (first :: rest)

section Levels

variable (primary : LexemeParser Expr)

def bitwiseOr : LexemeParser Expr :=
  let operand : LexemeParser Expr := do
    if ← takeKeyword "await" then return .suspend (some (← primary)) else primary
  let factor : LexemeParser Expr := fun lexemes => factor operand lexemes lexemes
  let term := leftAssociative ["*", "/", "//", "%", "@"] factor
  let sum := leftAssociative ["+", "-"] term
  let shift := leftAssociative ["<<", ">>"] sum
  let bitAnd := leftAssociative ["&"] shift
  let bitXor := leftAssociative ["^"] bitAnd
  leftAssociative ["|"] bitXor

def disjunction : LexemeParser Expr :=
  let comparison : LexemeParser Expr := do
    let left ← bitwiseOr primary
    let rest ← many (do comparisonOp; bitwiseOr primary)
    return if rest.isEmpty then left else .compare left rest
  booleanChain "or" (booleanChain "and" (inversion comparison))

def starredOr (other : LexemeParser Expr) : LexemeParser Expr := do
  if ← takeOp "*" then return .starred (← bitwiseOr primary) else other

def target : LexemeParser Expr := do
  let e ← starTarget
  match e.asTarget? .store with
  | some t => return t
  | none => failure
where
  starTarget : LexemeParser Expr := do
    if ← takeOp "*" then return .starred (← primary) else primary

def targets : LexemeParser Expr := do
  let line ← line
  let first ← target primary
  let rest ← many (do op ","; target primary)
  if (← takeOp ",") || !rest.isEmpty then return .tuple line (first :: rest)
  else return first

def clauses : LexemeParser (List Clause) :=
  many1 do
    discard (takeKeyword "async")
    keyword "for"
    let target ← targets primary
    keyword "in"
    let iter ← disjunction primary
    let conditions ← many (do keyword "if"; disjunction primary)
    return .mk target iter conditions

def atClauses : LexemeParser Bool := do
  return (← atKeyword "for") || (← atKeyword "async")

def starExpressions (item : LexemeParser Expr) : LexemeParser Expr := do
  let line ← line
  let first ← item
  let rest ← many (do op ","; item)
  if (← takeOp ",") || !rest.isEmpty then return .tuple line (first :: rest)
  else return first

end Levels

def yieldExpression (starExpressions expression : LexemeParser Expr) : LexemeParser Expr := do
  keyword "yield"
  if ← takeKeyword "from" then return .suspend (some (← expression))
  else return .suspend (← optional starExpressions)

structure Arguments where
  args : List Expr := []
  keywords : List KeywordArg := []

inductive ArgumentPhase
  | positional
  /-- After an argument by name: no further plain argument. -/
  | named
  /-- After an unpacked dictionary: no further starred one either. -/
  | unpacked
  deriving DecidableEq

def argument (g : Nested) (phase : ArgumentPhase) (found : Arguments) :
    LexemeParser (ArgumentPhase × Arguments) := do
  if ← takeOp "**" then
    let value ← g.expression
    return (.unpacked, { found with keywords := found.keywords ++ [.mk none value] })
  else if ← takeOp "*" then
    if phase == .unpacked then failure
    let value ← g.expression
    return (phase, { found with args := found.args ++ [.starred value] })
  else if ← atWordThen "=" then
    let name ← word
    op "="
    let value ← g.expression
    let phase := if phase == .unpacked then ArgumentPhase.unpacked else .named
    return (phase, { found with keywords := found.keywords ++ [.mk (some name) value] })
  else
    if phase != .positional then failure
    let value ← namedExpression g
    if ← atOp "=" then failure
    return (phase, { found with args := found.args ++ [value] })

def argumentsUntilClose (g : Nested) :
    (fuel : List Lexeme) → ArgumentPhase → Arguments → LexemeParser Arguments
  | [], _, _ => failure
  | _ :: fuel, phase, found => do
    if ← atOp ")" then return found
    let (phase, found) ← argument g phase found
    if ← takeOp "," then argumentsUntilClose g fuel phase found
    else return found

/-- Arguments in parentheses, the opening one already taken. A generator may stand alone without
parentheses of its own where `generator` says so. -/
def arguments (g : Nested) (generator : Bool) : LexemeParser Arguments := do
  let found ← fun lexemes => argumentsUntilClose g lexemes .positional {} lexemes
  if ← takeOp ")" then return found
  match found with
  | ⟨[.starred _], []⟩ => failure
  | ⟨[item], []⟩ =>
    if !generator then failure
    let parts ← clauses g.primary
    op ")"
    return { args := [.comprehension item parts] }
  | _ => failure

def slice (g : Nested) : LexemeParser Expr := do
  let bounded : LexemeParser Expr := do
    let lower ← optional g.expression
    op ":"
    let upper ← optional g.expression
    let step ← if ← takeOp ":" then optional g.expression else pure none
    return .slice lower upper step
  if ← atWordThen ":=" then namedExpression g
  else
    match ← peekKind with
    | .op ":" => bounded
    | _ =>
      let lower ← g.expression
      if ← atOp ":=" then failure
      if ← takeOp ":" then
        let upper ← optional g.expression
        let step ← if ← takeOp ":" then optional g.expression else pure none
        return .slice (some lower) upper step
      else return lower

def slices (g : Nested) : LexemeParser Expr := do
  let line ← line
  let item : LexemeParser Expr := do
    if ← takeOp "*" then return .starred (← g.expression) else slice g
  let first ← item
  let rest ← many (do op ","; item)
  let tuple := (← takeOp ",") || !rest.isEmpty ||
    (match first with
      | .starred _ => true
      | _ => false)
  return if tuple then .tuple line (first :: rest) else first

def atom (g : Nested) : LexemeParser Expr := do
  let l ← peek
  let named := namedExpression g
  let starNamed := starredOr g.primary named
  match l.kind with
  | .word id => skip; return .name l.line id .load
  | .keyword "True" => skip; return .constant l.line (.bool true)
  | .keyword "False" => skip; return .constant l.line (.bool false)
  | .keyword "None" => skip; return .constant l.line .none
  | .number value => skip; return .constant l.line value
  | .string _ _ => strings g
  | .op "..." => skip; return .constant l.line .ellipsis
  | .op "(" =>
    skip
    if ← takeOp ")" then return .tuple l.line []
    if ← atKeyword "yield" then
      let star := starExpressions (starredOr g.primary g.expression)
      let e ← yieldExpression star g.expression
      op ")"
      return e
    let isStarred ← atOp "*"
    let first ← starNamed
    if ← atClauses then
      if isStarred then failure
      let parts ← clauses g.primary
      op ")"
      return .comprehension first parts
    if ← atOp "," then
      let rest ← many (do op ","; starNamed)
      discard (takeOp ",")
      op ")"
      return .tuple l.line (first :: rest)
    if isStarred then failure
    op ")"
    return first
  | .op "[" =>
    skip
    if ← takeOp "]" then return .list []
    let isStarred ← atOp "*"
    let first ← starNamed
    if ← atClauses then
      if isStarred then failure
      let parts ← clauses g.primary
      op "]"
      return .comprehension first parts
    let rest ← many (do op ","; starNamed)
    discard (takeOp ",")
    op "]"
    return .list (first :: rest)
  | .op "\x7b" =>
    skip
    if ← takeOp "\x7d" then return .dict [] []
    let pair : LexemeParser (Option Expr × Expr) := do
      if ← takeOp "**" then return (none, ← bitwiseOr g.primary)
      let key ← g.expression
      op ":"
      return (some key, ← g.expression)
    if ← atOp "**" then
      dictRest pair [← pair]
    else
      let isStarred ← atOp "*"
      let isNamed ← atWordThen ":="
      let first ← starNamed
      if !isStarred && !isNamed && (← takeOp ":") then
        let value ← g.expression
        if ← atClauses then
          let parts ← clauses g.primary
          op "\x7d"
          return .dictComprehension first value parts
        dictRest pair [(some first, value)]
      else if ← atClauses then
        if isStarred then failure
        let parts ← clauses g.primary
        op "\x7d"
        return .comprehension first parts
      else
        let rest ← many (do op ","; starNamed)
        discard (takeOp ",")
        op "\x7d"
        return .set (first :: rest)
  | _ => failure
where
  dictRest (pair : LexemeParser (Option Expr × Expr)) (first : List (Option Expr × Expr)) :
      LexemeParser Expr := do
    let rest ← many (do op ","; pair)
    discard (takeOp ",")
    op "\x7d"
    let items := first ++ rest
    return .dict (items.map (·.1)) (items.map (·.2))

def trailers (g : Nested) : (fuel : List Lexeme) → Expr → LexemeParser Expr
  | [], e => pure e
  | _ :: fuel, e => do
    match ← peekKind with
    | .op "." =>
      skip
      let attr ← word
      trailers g fuel (.attribute e attr)
    | .op "[" =>
      skip
      let index ← slices g
      op "]"
      trailers g fuel (.subscript e index)
    | .op "(" =>
      skip
      let found ← arguments g true
      trailers g fuel (.call e found.args found.keywords)
    | _ => return e

def primaryNext (g : Nested) : LexemeParser Expr := do
  let e ← atom g
  trailers g (← get) e

end Nested

end Pruner.Syntax
