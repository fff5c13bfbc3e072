import Pruner.Constant
import Pruner.Token.Shape

namespace Pruner.Syntax

open Pruner.Token (isDigit isHexDigit isOctalDigit isBinaryDigit)

/-- Characters that can continue a word; validity beyond ASCII is checked on the whole word. -/
def isWordPart (c : Char) : Bool :=
  let n := c.toNat
  (48 ≤ n && n ≤ 57) || (65 ≤ n && n ≤ 90) || n == 95 || (97 ≤ n && n ≤ 122) || n ≥ 128

def isWordStart (c : Char) : Bool :=
  isWordPart c && !isDigit c

def isWholeWord (w t : Text) : Bool :=
  w.isPrefixOf t && !(t.drop w.length).head?.any isWordPart

def mayFollowNumber (t : Text) : Bool :=
  match t with
  | [] => true
  | c :: cs =>
    !isWordPart c ||
      ["and", "else", "for", "or"].any (fun w => isWholeWord w.toList t) ||
      (c == 'i' && cs.head?.any ['f', 'n', 's'].contains)

/-- Length of digits with single underscores between them; fails on an underscore without a digit
after it. The first character must be a digit. -/
def strictRun? (p : Char → Bool) : Text → Option Nat
  | [] => some 0
  | c :: cs =>
    if c == '_' then
      match cs with
      | d :: ds => if p d then (strictRun? p ds).map (· + 2) else none
      | [] => none
    else if p c then (strictRun? p cs).map (· + 1)
    else some 0

def exponentRun? (t : Text) : Option Nat :=
  match t with
  | e :: c :: cs =>
    if e == 'e' || e == 'E' then
      if c == '+' || c == '-' then
        if cs.head?.any isDigit then (strictRun? isDigit cs).map (· + 2) else none
      else if isDigit c then (strictRun? isDigit (c :: cs)).map (· + 1)
      else some 0
    else some 0
  | _ => some 0

def decimalTail? (t : Text) : Option Nat := do
  let fraction ← match t with
    | '.' :: cs => if cs.head?.any isDigit then (strictRun? isDigit cs).map (· + 1) else some 1
    | _ => some 0
  let rest := t.drop fraction
  let exponent ← exponentRun? rest
  let rest := rest.drop exponent
  if rest.head? == some 'j' || rest.head? == some 'J' then
    if mayFollowNumber (rest.drop 1) then some (fraction + exponent + 1) else none
  else if mayFollowNumber rest then some (fraction + exponent)
  else none

def basedRun? (p : Char → Bool) (t : Text) : Option Nat := do
  let digits := if t.head? == some '_' then t.drop 1 else t
  if digits.head?.any p then
    let n ← strictRun? p t
    let rest := t.drop n
    if rest.head?.any isDigit || !mayFollowNumber rest then none else some (n + 2)
  else none

def numberLength? (t : Text) : Option Nat :=
  match t with
  | '.' :: _ => decimalTail? t
  | '0' :: c :: cs =>
    if c == 'x' || c == 'X' then basedRun? isHexDigit cs
    else if c == 'o' || c == 'O' then basedRun? isOctalDigit cs
    else if c == 'b' || c == 'B' then basedRun? isBinaryDigit cs
    else do
      let n ← strictRun? isDigit t
      let tail ← decimalTail? (t.drop n)
      let zerosOnly := (t.take n).all fun d => d == '0' || d == '_'
      if tail = 0 ∧ !zerosOnly then none else some (n + tail)
  | _ => do
    let n ← strictRun? isDigit t
    let tail ← decimalTail? (t.drop n)
    some (n + tail)

def digitValue (c : Char) : Nat :=
  if isDigit c then c.toNat - 48
  else if 'a' ≤ c ∧ c ≤ 'f' then c.toNat - 87
  else c.toNat - 55

def digitsValue (base : Nat) (t : Text) : Nat :=
  t.foldl (fun n c => n * base + digitValue c) 0

def maxDigits : Nat := 4300

def numberValue? (t : Text) : Option Constant :=
  let t := t.filter (· != '_')
  let decimal (t : Text) : Option Binary64 :=
    (Binary64.readDecimal? t).map fun (digits, scale) => Binary64.ofDecimal digits scale
  match t with
  | '0' :: c :: cs =>
    if c == 'x' || c == 'X' then some (.int (digitsValue 16 cs))
    else if c == 'o' || c == 'O' then some (.int (digitsValue 8 cs))
    else if c == 'b' || c == 'B' then some (.int (digitsValue 2 cs))
    else plain t decimal
  | _ => plain t decimal
where
  plain (t : Text) (decimal : Text → Option Binary64) : Option Constant :=
    if t.all isDigit then
      if t.length > maxDigits && t.any (· != '0') then none
      else some (.int (digitsValue 10 t))
    else if t.getLast? == some 'j' || t.getLast? == some 'J' then
      (decimal t.dropLast).map (.complex .zero ·)
    else (decimal t).map .float

end Pruner.Syntax
