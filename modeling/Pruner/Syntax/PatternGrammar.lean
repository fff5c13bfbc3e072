import Pruner.Syntax.Params

namespace Pruner.Syntax

open LexemeParser

namespace Nested

def atAnyOp (texts : List String) : LexemeParser Bool := do
  match ← peekKind with
  | .op text => return texts.contains text
  | _ => return false

def isImaginary : Constant → Bool
  | .complex _ _ => true
  | _ => false

def numberPattern : LexemeParser Expr := do
  let line ← line
  let negative ← takeOp "-"
  let number : LexemeParser Constant := do
    match ← peekKind with
    | .number value => skip; return value
    | _ => failure
  let value ← number
  let first : Expr :=
    if negative then .unary .minus (.constant line value) else .constant line value
  if ← atAnyOp ["+", "-"] then
    let op ← anyOp ["+", "-"]
    let second ← number
    if isImaginary value || !isImaginary second then failure
    return .binary first (if op == "+" then .add else .sub) (.constant line second)
  else return first

/-- A constant as a pattern or as a key of a mapping pattern; none stands for a singleton. -/
def literalPattern (g : Nested) : LexemeParser (Option Expr) := do
  match ← peekKind with
  | .number _ => some <$> numberPattern
  | .op "-" => some <$> numberPattern
  | .string _ _ => some <$> strings g
  | .keyword "None" => skip; return none
  | .keyword "True" => skip; return none
  | .keyword "False" => skip; return none
  | _ => failure

def captureName : LexemeParser String := do
  let name ← word
  if name == "_" || (← atAnyOp [".", "(", "="]) then failure
  return name

def dottedName : LexemeParser Expr := do
  let line ← line
  let name ← word
  let attrs ← many (do op "."; word)
  return attrs.foldl .attribute (.name line name .load)

section

variable (g : Nested) (pattern : LexemeParser Pattern)

def starPattern : LexemeParser Pattern := do
  let line ← line
  op "*"
  let name ← word
  if name == "_" then return .star line none
  if ← atAnyOp [".", "(", "="] then failure
  return .star line (some name)

def maybeStarPattern : LexemeParser Pattern := do
  if ← atOp "*" then starPattern else pattern

def sequenceItems : LexemeParser (List Pattern) := do
  let items ← commaSeparated (maybeStarPattern pattern)
  discard (takeOp ",")
  return items

def patternOrSequence : LexemeParser Pattern := do
  let isStar ← atOp "*"
  let first ← maybeStarPattern pattern
  if ← takeOp "," then
    let rest ← optional (sequenceItems pattern)
    return .sequence (first :: rest.getD [])
  if isStar then failure
  return first

def mappingEntry : LexemeParser (Option Expr × Pattern) := do
  let key ← literalPattern g <|> (do
    let e ← dottedName
    match e with
    | .attribute _ _ => return some e
    | _ => failure)
  op ":"
  return (key, ← pattern)

def mappingPattern : LexemeParser Pattern := do
  let line ← line
  op "\x7b"
  if ← takeOp "\x7d" then return .mapping line [] [] none
  let restPattern : LexemeParser String := do op "**"; captureName
  let close : LexemeParser Unit := do
    discard (takeOp ",")
    op "\x7d"
  if ← atOp "**" then
    let rest ← restPattern
    close
    return .mapping line [] [] (some rest)
  let entries ← commaSeparated (mappingEntry g pattern)
  let rest ← optional (do op ","; restPattern)
  close
  return .mapping line (entries.filterMap (·.1)) (entries.map (·.2)) rest

def classArguments : LexemeParser (List Pattern × List Pattern) := do
  let positional : LexemeParser Pattern := do
    if ← atWordThen "=" then failure
    pattern
  let byName : LexemeParser Pattern := do
    discard word
    op "="
    pattern
  let close : LexemeParser Unit := do
    discard (takeOp ",")
    op ")"
  if ← takeOp ")" then return ([], [])
  if ← atWordThen "=" then
    let named ← commaSeparated byName
    close
    return ([], named)
  let positionals ← commaSeparated positional
  let named ← optional (do op ","; commaSeparated byName)
  close
  return (positionals, named.getD [])

def namePattern : LexemeParser Pattern := do
  let line ← line
  match ← peekKind with
  | .word "_" =>
    skip
    return .capture line none none
  | _ => pure ()
  let e ← dottedName
  if ← takeOp "(" then
    let (positional, named) ← classArguments pattern
    return .instanceOf e positional named
  if ← atOp "=" then failure
  match e with
  | .name _ id _ => return .capture line none (some id)
  | _ => return .value e

def closedPattern : LexemeParser Pattern := do
  match ← peekKind with
  | .word _ => namePattern pattern
  | .op "(" =>
    skip
    if ← takeOp ")" then return .sequence []
    let p ← patternOrSequence pattern
    op ")"
    return p
  | .op "[" =>
    skip
    if ← takeOp "]" then return .sequence []
    let items ← sequenceItems pattern
    op "]"
    return .sequence items
  | .op "\x7b" => mappingPattern g pattern
  | _ =>
    match ← literalPattern g with
    | some e => return .value e
    | none => return .singleton

end

def pattern (g : Nested) : (depth : List Lexeme) → LexemeParser Pattern
  | [] => failure
  | _ :: depth => do
    let line ← line
    let first ← closedPattern g (pattern g depth)
    let rest ← many (do op "|"; closedPattern g (pattern g depth))
    let p := if rest.isEmpty then first else Pattern.either (first :: rest)
    if ← takeKeyword "as" then
      let name ← captureName
      return .capture line (some p) (some name)
    else return p

end Nested

end Pruner.Syntax
