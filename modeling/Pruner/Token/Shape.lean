import Pruner.Token.Basic

namespace Pruner.Token

open Pruner.Text

inductive Shape
  | joiner
  | finish
  | comment
  | tripleQuote (quote : Char)
  | number
  | newline
  | op
  | quoted
  | unclosed (quote : Char)
  | word
  deriving DecidableEq, Repr

def isInnerBlank (c : Char) : Bool :=
  c == ' ' || c == '\t' || c == '\x0c'

def isDigit (c : Char) : Bool := '0' ≤ c && c ≤ '9'

def isBinaryDigit (c : Char) : Bool := c == '0' || c == '1'

def isOctalDigit (c : Char) : Bool := '0' ≤ c && c ≤ '7'

def isHexDigit (c : Char) : Bool :=
  isDigit c || ('a' ≤ c && c ≤ 'f') || ('A' ≤ c && c ≤ 'F')

def digitRun (p : Char → Bool) : Text → Nat
  | '_' :: c :: cs => if p c then digitRun p cs + 2 else 0
  | c :: cs => if p c then digitRun p cs + 1 else 0
  | [] => 0

def decimalRun : Text → Nat
  | [] => 0
  | c :: cs => if isDigit c then digitRun isDigit cs + 1 else 0

def exponentRun : Text → Nat
  | [] => 0
  | e :: cs =>
    if e == 'e' || e == 'E' then
      match cs with
      | [] => 0
      | s :: ds =>
        if s == '+' || s == '-' then
          (if decimalRun ds = 0 then 0 else decimalRun ds + 2)
        else if decimalRun cs = 0 then 0 else decimalRun cs + 1
    else 0

def imaginaryRun (t : Text) : Nat :=
  if t.head? == some 'j' || t.head? == some 'J' then 1 else 0

/-- Length of an integer: with a base letter, or zeros only, or without a zero in front. -/
def integerRun (t : Text) : Nat :=
  match t with
  | '0' :: b :: ds =>
    let based (p : Char → Bool) : Nat :=
      if digitRun p ds = 0 then digitRun (· == '0') (b :: ds) + 1 else digitRun p ds + 2
    if b == 'x' || b == 'X' then based isHexDigit
    else if b == 'b' || b == 'B' then based isBinaryDigit
    else if b == 'o' || b == 'O' then based isOctalDigit
    else digitRun (· == '0') (b :: ds) + 1
  | _ => if t.head? == some '0' then 1 else decimalRun t

def numberRun (t : Text) : Nat :=
  let whole := decimalRun t
  let afterWhole := t.drop whole
  match afterWhole with
  | '.' :: fraction =>
    let part := decimalRun fraction
    if whole = 0 ∧ part = 0 then 0
    else
      let head := whole + 1 + part
      let exponent := exponentRun (t.drop head)
      head + exponent + imaginaryRun (t.drop (head + exponent))
  | _ =>
    if whole = 0 then 0
    else if imaginaryRun afterWhole = 1 then whole + 1
    else
      let exponent := exponentRun afterWhole
      if exponent = 0 then integerRun t
      else whole + exponent + imaginaryRun (t.drop (whole + exponent))

def longOperators : List Text :=
  ["**=", "//=", "<<=", ">>=", "..."].map String.toList

def twoCharOperators : List Text :=
  ["!=", "%=", "&=", "**", "*=", "+=", "-=", "->", "//", "/=", ":=", "<<", "<=", "==", ">=", ">>",
    "@=", "^=", "|="].map String.toList

def oneCharOperators : Text := "%&()*+,-./:;<=>@[]^\x7b|\x7d~".toList

def operatorRun (t : Text) : Nat :=
  if longOperators.contains (t.take 3) then 3
  else if twoCharOperators.contains (t.take 2) then 2
  else if t.head?.any oneCharOperators.contains then 1
  else 0

def isQuote (c : Char) : Bool := c == '\'' || c == '"'

def lower (c : Char) : Char :=
  if 'A' ≤ c ∧ c ≤ 'Z' then Char.ofNat (c.toNat + 32) else c

def stringMarkRun (t : Text) : Option Nat :=
  match t with
  | a :: rest =>
    if isQuote a then some 0
    else
      match rest with
      | b :: rest =>
        if isQuote b then
          if ['b', 'r', 'u', 'f'].contains (lower a) then some 1 else none
        else
          match rest with
          | c :: _ =>
            if isQuote c && [['b', 'r'], ['r', 'b'], ['f', 'r'], ['r', 'f']].contains
                [lower a, lower b] then some 2
            else none
          | [] => none
      | [] => none
  | [] => none

/-- How a string that opened with one `quote` ends on its first line: closed or, after a backslash,
not; and the length of what belongs to it. -/
def quotedTail (quote : Char) : Text → Option (Bool × Nat)
  | [] => none
  | '\\' :: '\n' :: _ => some (false, 2)
  | '\\' :: '\r' :: '\n' :: _ => some (false, 3)
  | '\\' :: _ :: cs => (quotedTail quote cs).map fun (closed, n) => (closed, n + 2)
  | c :: cs =>
    if c == quote then some (true, 1)
    else if c == '\n' then none
    else (quotedTail quote cs).map fun (closed, n) => (closed, n + 1)

def closingRun (triple : Bool) (quote : Char) : Text → Option Nat
  | [] => none
  | '\\' :: '\n' :: _ => none
  | '\\' :: _ :: cs => (closingRun triple quote cs).map (· + 2)
  | c :: cs =>
    if c == quote then
      if !triple then some 1
      else if [quote, quote].isPrefixOf cs then some 3
      else (closingRun triple quote cs).map (· + 1)
    else (closingRun triple quote cs).map (· + 1)

def newlineRun : Text → Nat
  | '\n' :: _ => 1
  | '\r' :: '\n' :: _ => 2
  | _ => 0

def shape? (t : Text) : Option (Shape × Nat) :=
  match t with
  | [] => some (.finish, 0)
  | c :: cs =>
    if c == '\\' && newlineRun cs ≠ 0 then some (.joiner, newlineRun cs + 1)
    else if c == '#' then
      some (.comment, (cs.takeWhile fun d => d != '\r' && d != '\n').length + 1)
    else
      let mark := stringMarkRun t
      let opening := mark.bind fun n => (t.drop n).head?
      let isTriple := match mark, opening with
        | some n, some q => [q, q, q].isPrefixOf (t.drop n)
        | _, _ => false
      match isTriple, mark, opening with
      | true, some n, some q => some (.tripleQuote q, n + 3)
      | _, _, _ =>
        if numberRun t ≠ 0 then some (.number, numberRun t)
        else if newlineRun t ≠ 0 then some (.newline, newlineRun t)
        else if operatorRun t ≠ 0 then some (.op, operatorRun t)
        else
          let tail := match mark, opening with
            | some n, some q => (quotedTail q (t.drop (n + 1))).map fun (closed, k) =>
                (if closed then Shape.quoted else Shape.unclosed q, n + 1 + k)
            | _, _ => none
          match tail with
          | some found => some found
          | none =>
            let n := (t.takeWhile isWord).length
            if n = 0 then none else some (.word, n)

end Pruner.Token
