import Pruner.Syntax.Lex
import Pruner.Syntax.Tree

namespace Pruner.Syntax

abbrev LexemeParser := StateT (List Lexeme) Option

namespace LexemeParser

def peek : LexemeParser Lexeme := do
  match ← get with
  | l :: _ => pure l
  | [] => failure

def peekKind : LexemeParser LexemeKind := return (← peek).kind

def line : LexemeParser Nat := return (← peek).line

def skip : LexemeParser Unit := modify (List.drop 1)

def expect (kind : LexemeKind) : LexemeParser Unit := do
  if (← peekKind) == kind then skip else failure

def op (text : String) : LexemeParser Unit := expect (.op text)

def keyword (word : String) : LexemeParser Unit := expect (.keyword word)

def atOp (text : String) : LexemeParser Bool := return (← peekKind) == .op text

def atKeyword (word : String) : LexemeParser Bool := return (← peekKind) == .keyword word

def takeOp (text : String) : LexemeParser Bool := do
  if ← atOp text then skip; return true
  else return false

def takeKeyword (word : String) : LexemeParser Bool := do
  if ← atKeyword word then skip; return true
  else return false

def word : LexemeParser String := do
  match ← peekKind with
  | .word id => skip; return id
  | _ => failure

def secondIsOp (text : String) : LexemeParser Bool := do
  match ← get with
  | _ :: l :: _ => return l.kind == .op text
  | _ => return false

def atWordThen (text : String) : LexemeParser Bool := do
  match ← peekKind with
  | .word _ => secondIsOp text
  | _ => return false

def ahead (p : LexemeParser α) : LexemeParser Unit := do
  let lexemes ← get
  discard p
  set lexemes

def many (p : LexemeParser α) : LexemeParser (List α) := fun lexemes => go lexemes [] lexemes
where
  /-- `found` holds the results, last first. Each run takes at least one lexeme, so the list that
  was there at the start is fuel enough. -/
  go : (fuel : List Lexeme) → (found : List α) → LexemeParser (List α)
    | [], found, lexemes => some (found.reverse, lexemes)
    | _ :: fuel, found, lexemes =>
      match p lexemes with
      | some (a, rest) => go fuel (a :: found) rest
      | none => some (found.reverse, lexemes)

def many1 (p : LexemeParser α) : LexemeParser (List α) := do
  let a ← p
  return a :: (← many p)

def commaSeparated (p : LexemeParser α) : LexemeParser (List α) := do
  let a ← p
  return a :: (← many (do op ","; p))

def anyOp (texts : List String) : LexemeParser String := do
  match ← peekKind with
  | .op text => if texts.contains text then skip; return text else failure
  | _ => failure

end LexemeParser

end Pruner.Syntax
