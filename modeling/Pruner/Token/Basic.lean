import Pruner.Text.Basic

/-!
Tokens of a source text, as the line rules see them.

This is the lenient reading of a source: it knows lines, brackets, strings and indentation, and
turns every character it cannot place into a token of its own. Only three things make it fail:
a text that ends inside a bracket or a continued line, one that ends inside a string, and a line
that returns to an indentation that no open block has.
-/
namespace Pruner

inductive TokenKind
  | name
  | number
  | string
  | op
  | comment
  | newline
  | lineEnd
  | indent
  | dedent
  | junk
  | endMarker
  deriving DecidableEq, Repr

structure Token where
  kind : TokenKind
  text : Text
  row : Nat
  line : Text
  deriving DecidableEq, Repr

inductive ScanError
  | openStatement
  | openString
  | unknownDedent
  deriving DecidableEq, Repr

structure Scan where
  tokens : List Token
  error : Option ScanError
  deriving DecidableEq, Repr

end Pruner
