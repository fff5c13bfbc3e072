import Pruner.Syntax.Escape
import Pruner.Syntax.Tree

namespace Pruner.Syntax

open Pruner.Token (isQuote)

inductive FormatPiece
  | literal (points : List Nat)
  | field (value : Expr)

/-- Literal text up to the next brace, what follows it, and whether a doubled brace ended it.
Braces are doubled only outside of formats; there a single closing brace is an error. -/
def literalText? (raw top : Bool) : (skip : Nat) → Text → Option (Text × Text × Bool)
  | _, [] => some ([], [], false)
  | skip + 1, c :: cs =>
    (literalText? raw top skip cs).map fun (text, rest, doubled) => (c :: text, rest, doubled)
  | 0, c :: cs =>
    let isBrace (d : Char) : Bool := d == '\x7b' || d == '\x7d'
    if isBrace c then
      if top && cs.head? == some c then some ([c], cs.drop 1, true)
      else if top && c == '\x7d' then none
      else some ([], c :: cs, false)
    else
      let skip :=
        if c == '\\' && !raw then
          match cs with
          | 'N' :: '\x7b' :: rest => (rest.takeWhile (· != '\x7d')).length + 3
          | d :: _ => if isBrace d then 0 else 1
          | [] => 0
        else 0
      (literalText? raw top skip cs).map fun (text, rest, doubled) => (c :: text, rest, doubled)

/-- The text of the expression in a field and what follows it. `quote` is the string that is open
inside the expression, with whether it has three quotes; `brackets` are the open brackets. -/
def fieldText? :
    (skip : Nat) → (quote : Option (Char × Bool)) → (brackets : Text) → Text →
      Option (Text × Text)
  | _, _, _, [] => none
  | skip + 1, quote, brackets, c :: cs =>
    (fieldText? skip quote brackets cs).map fun (text, rest) => (c :: text, rest)
  | 0, quote, brackets, c :: cs =>
    let go (skip : Nat) (quote : Option (Char × Bool)) (brackets : Text) : Option (Text × Text) :=
      (fieldText? skip quote brackets cs).map fun (text, rest) => (c :: text, rest)
    if c == '\\' then none
    else
      match quote with
      | some (q, triple) =>
        if c != q then go 0 quote brackets
        else if !triple then go 0 none brackets
        else if [q, q].isPrefixOf cs then go 2 none brackets
        else go 0 quote brackets
      | none =>
        if isQuote c then
          if [c, c].isPrefixOf cs then go 2 (some (c, true)) brackets
          else go 0 (some (c, false)) brackets
        else if c == '(' || c == '[' || c == '\x7b' then
          if brackets.length ≥ maxBrackets then none else go 0 none (c :: brackets)
        else if c == '#' then none
        else if brackets.isEmpty && ['!', ':', '\x7d', '=', '>', '<'].contains c then
          if ['!', '=', '>', '<'].contains c && cs.head? == some '=' then go 1 none brackets
          else if c == '>' || c == '<' then go 0 none brackets
          else some ([], c :: cs)
        else if c == ')' || c == ']' || c == '\x7d' then
          match brackets with
          | o :: below => if o == Reader.partner c then go 0 none below else none
          | [] => none
        else go 0 none brackets

def maxFieldDepth : Nat := 2

def newlines (t : Text) : Nat := (t.filter (· == '\n')).length

def literalPoints? (raw : Bool) (t : Text) : Option (List Nat) :=
  if raw then some (t.map Char.toNat) else unescape? false t

def joinPieces (line : Nat) (pieces : List FormatPiece) : List Expr :=
  let flush (points : List Nat) (rest : List Expr) : List Expr :=
    if points.isEmpty then rest else .constant line (.str points) :: rest
  let (points, rest) := pieces.foldr
    (fun piece (acc : List Nat × List Expr) =>
      match piece with
      | .literal points => (points ++ acc.1, acc.2)
      | .field value => ([], value :: flush acc.1 acc.2)) ([], [])
  flush points rest

/-- Reads the pieces of a formatted string up to its end or, inside a format, up to the closing
brace, and what follows them. `line` is the line of the text's first character; `parse?` reads an
expression that starts on a given line. -/
def formatPieces? (parse? : Nat → Text → Option Expr) (raw : Bool) :
    (fuel : Nat) → (depth line : Nat) → Text → Option (List FormatPiece × Text)
  | 0, _, _, _ => none
  | fuel + 1, depth, line, t => do
    let (text, rest, doubled) ← literalText? raw (depth == 0) 0 t
    let points ← literalPoints? raw text
    let more (pieces : List FormatPiece) (rest : Text) : Option (List FormatPiece × Text) := do
      let restLine := line + newlines (t.take (t.length - rest.length))
      let (later, rest) ← formatPieces? parse? raw fuel depth restLine rest
      some (.literal points :: pieces ++ later, rest)
    if doubled then more [] rest
    else
      match rest with
      | '\x7b' :: inner =>
        if depth ≥ maxFieldDepth then none
        else do
          let line := line + newlines text
          let (source, tail) ← fieldText? 0 none [] inner
          if source.all fun c => c == ' ' || c == '\t' || c == '\n' || c == '\x0c' then none
          let value ← parse? line ('(' :: source ++ [')'])
          let (shown, tail) := match tail with
            | '=' :: cs =>
              let after := cs.dropWhile fun c => c == ' ' || (9 ≤ c.toNat && c.toNat ≤ 13)
              (inner.take (inner.length - after.length), after)
            | _ => ([], tail)
          let tail ← match tail with
            | '!' :: c :: cs => if c == 's' || c == 'r' || c == 'a' then some cs else none
            | '!' :: [] => none
            | _ => some tail
          let (spec, tail) ← match tail with
            | ':' :: cs => do
              let specLine := line + newlines (inner.take (inner.length - cs.length))
              let (pieces, tail) ← formatPieces? parse? raw fuel (depth + 1) specLine cs
              some (some (Expr.joined (joinPieces line pieces)), tail)
            | _ => some (none, tail)
          match tail with
          | '\x7d' :: after =>
            more [.literal (shown.map Char.toNat), .field (.formatted value spec)] after
          | _ => none
      | _ =>
        if depth == 0 || rest.head? == some '\x7d' then some ([.literal points], rest) else none

end Pruner.Syntax
