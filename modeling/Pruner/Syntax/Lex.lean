import Pruner.Syntax.Numeral
import Pruner.Text.Normal

/-!
Reading a source text into lexemes, strictly: every error of form makes the whole reading fail.

Blocks are opened and closed by the columns of lines, counted once with wide and once with narrow
tabs; the two counts must agree on every comparison.
-/
namespace Pruner.Syntax

open Pruner.Token (isDigit isInnerBlank isQuote lower)
open Pruner.Text (isIdentifierStart isIdentifierPart normalForm)

structure StringMark where
  raw : Bool := false
  bytes : Bool := false
  format : Bool := false
  deriving DecidableEq, Repr

inductive LexemeKind
  | word (id : String)
  | keyword (word : String)
  | number (value : Constant)
  | string (mark : StringMark) (body : Text)
  | op (text : String)
  | newline
  | indent
  | dedent
  | finish
  deriving DecidableEq, Repr

structure Lexeme where
  kind : LexemeKind
  line : Nat
  deriving DecidableEq, Repr

def keywords : List String :=
  ["False", "None", "True", "and", "as", "assert", "async", "await", "break", "class", "continue",
    "def", "del", "elif", "else", "except", "finally", "for", "from", "global", "if", "import", "in",
    "is", "lambda", "nonlocal", "not", "or", "pass", "raise", "return", "try", "while", "with",
    "yield"]

def maxBrackets : Nat := 200

def maxBlocks : Nat := 100

def normalizeLineEnds (t : Text) : Text :=
  let unified := go t
  if unified.getLast? == some '\n' then unified else unified ++ ['\n']
where
  go (t : Text) : Text :=
    (t.foldl (fun (acc : Text × Bool) c =>
      if c == '\r' then ('\n' :: acc.1, true)
      else if c == '\n' && acc.2 then (acc.1, false)
      else (c :: acc.1, false)) ([], false)).1.reverse

def stringLength? (t : Text) : Option Nat :=
  match t with
  | q :: rest =>
    if [q, q].isPrefixOf rest then (triple q (rest.drop 2)).map (· + 3)
    else (single q rest).map (· + 1)
  | [] => none
where
  single (q : Char) : Text → Option Nat
    | [] => none
    | '\\' :: _ :: cs => (single q cs).map (· + 2)
    | c :: cs =>
      if c == q then some 1
      else if c == '\n' then none
      else (single q cs).map (· + 1)
  triple (q : Char) : Text → Option Nat
    | [] => none
    | '\\' :: _ :: cs => (triple q cs).map (· + 2)
    | c :: cs =>
      if c == q && [q, q].isPrefixOf cs then some 3
      else (triple q cs).map (· + 1)

def stringMark? (t : Text) : Option (StringMark × Nat) :=
  (Token.stringMarkRun t).map fun n =>
    let letters := (t.take n).map lower
    (⟨letters.contains 'r', letters.contains 'b', letters.contains 'f'⟩, n)

def stringBody (t : Text) (length : Nat) : Text :=
  let quotes := if length ≥ 6 && [t.headD ' ', t.headD ' ', t.headD ' '].isPrefixOf t then 3 else 1
  (t.take (length - quotes)).drop quotes

/-- The columns of a line: with wide tabs, with narrow tabs, the column that a backslash in the
indentation fixed (zero if none), and the characters and lines passed. -/
structure Margin where
  wide : Nat := 0
  narrow : Nat := 0
  fixed : Nat := 0
  passed : Nat := 0
  lines : Nat := 0

def Margin.measure? (m : Margin) : Text → Option Margin
  | [] => some m
  | '\\' :: '\n' :: cs =>
    if cs.isEmpty then none
    else Margin.measure?
      { m with
        fixed := if m.fixed = 0 then m.wide else m.fixed
        passed := m.passed + 2
        lines := m.lines + 1 } cs
  | c :: cs =>
    if c == ' ' then
      Margin.measure?
        { m with wide := m.wide + 1, narrow := m.narrow + 1, passed := m.passed + 1 } cs
    else if c == '\t' then
      Margin.measure?
        { m with wide := (m.wide / 8 + 1) * 8, narrow := m.narrow + 1, passed := m.passed + 1 } cs
    else if c == '\x0c' then
      Margin.measure? { m with wide := 0, narrow := 0, passed := m.passed + 1 } cs
    else if c == '\\' then none
    else some m

/-- What the reader keeps: the line, whether a line starts here, the columns of the open blocks and
the open brackets (innermost first), and the lexemes read so far (last first). -/
structure Reader where
  line : Nat := 1
  atStart : Bool := true
  blocks : List (Nat × Nat) := [(0, 0)]
  brackets : List Char := []
  found : List Lexeme := []

namespace Reader

def add (r : Reader) (kind : LexemeKind) : Reader :=
  { r with found := ⟨kind, r.line⟩ :: r.found }

def enter? (r : Reader) (wide narrow : Nat) : Option Reader :=
  match r.blocks with
  | [] => none
  | (w, n) :: _ =>
    if wide = w then
      if narrow = n then some r else none
    else if wide > w then
      if r.blocks.length ≥ maxBlocks || narrow ≤ n then none
      else some { r.add .indent with blocks := (wide, narrow) :: r.blocks }
    else
      let left := r.blocks.dropWhile fun b => b.1 > wide
      match left with
      | [] => none
      | (w, n) :: _ =>
        if wide = w && narrow = n then
          let closed := r.blocks.length - left.length
          some { r with
            blocks := left
            found := List.replicate closed ⟨.dedent, r.line⟩ ++ r.found }
        else none

def partner (c : Char) : Char :=
  if c == ')' then '(' else if c == ']' then '[' else '\x7b'

def bracket? (r : Reader) (c : Char) : Option Reader :=
  if c == '(' || c == '[' || c == '\x7b' then
    if r.brackets.length ≥ maxBrackets then none
    else some { r with brackets := c :: r.brackets }
  else if c == ')' || c == ']' || c == '\x7d' then
    match r.brackets with
    | o :: below => if o == partner c then some { r with brackets := below } else none
    | [] => none
  else some r

def word? (r : Reader) (text : Text) : Option Reader :=
  let spelling := String.ofList text
  if text.all (·.toNat < 128) then
    some (r.add (if keywords.contains spelling then .keyword spelling else .word spelling))
  else
    match text with
    | c :: cs =>
      if isIdentifierStart c && cs.all isIdentifierPart then
        some (r.add (.word (String.ofList (normalForm text))))
      else none
    | [] => none

def next? (r : Reader) (t : Text) : Option (Reader × Nat) :=
  match t with
  | [] => none
  | c :: cs =>
    if r.atStart then do
      let m ← Margin.measure? {} t
      let r := { r with atStart := false, line := r.line + m.lines }
      let here := t.drop m.passed
      let isEmpty := here.head? == some '#' || here.head? == some '\n'
      if isEmpty then
        let comment := (here.takeWhile (· != '\n')).length
        some ({ r with atStart := true, line := r.line + 1 }, m.passed + comment + 1)
      else if !r.brackets.isEmpty then some (r, m.passed)
      else
        let wide := if m.fixed = 0 then m.wide else m.fixed
        let narrow := if m.fixed = 0 then m.narrow else m.fixed
        (r.enter? wide narrow).map (·, m.passed)
    else if isInnerBlank c then some (r, 1)
    else if c == '#' then some (r, (t.takeWhile (· != '\n')).length)
    else if c == '\n' then
      let r' := { r with atStart := true, line := r.line + 1 }
      if r.brackets.isEmpty then
        some ({ r' with found := ⟨.newline, r.line⟩ :: r.found }, 1)
      else some (r', 1)
    else if c == '\\' then
      match cs with
      | '\n' :: rest => if rest.isEmpty then none else some ({ r with line := r.line + 1 }, 2)
      | _ => none
    else if isWordStart c || isQuote c then
      match stringMark? t with
      | some (mark, n) => do
        let body := t.drop n
        let length ← stringLength? body
        let text := stringBody body length
        let r' := r.add (.string mark text)
        some ({ r' with line := r.line + (text.filter (· == '\n')).length }, n + length)
      | none =>
        let text := t.takeWhile isWordPart
        (r.word? text).map (·, text.length)
    else if isDigit c || (c == '.' && cs.head?.any isDigit) then do
      let n ← numberLength? t
      let value ← numberValue? (t.take n)
      some (r.add (.number value), n)
    else
      let n := Token.operatorRun t
      if n = 0 then none
      else do
        let r' ← r.bracket? c
        some (r'.add (.op (String.ofList (t.take n))), n)

/-- Reads a text to its end. The first `skip` characters belong to a piece already read; a piece
of no characters only changes the reader. -/
def run? : (skip : Nat) → Reader → Text → Option Reader
  | _, r, [] => some r
  | skip + 1, r, _ :: cs => run? skip r cs
  | 0, r, c :: cs =>
    match r.next? (c :: cs) with
    | some (r', n + 1) => run? n r' cs
    | some (r', 0) =>
      match r'.next? (c :: cs) with
      | some (r'', n + 1) => run? n r'' cs
      | _ => none
    | none => none

end Reader

def lex? (firstLine : Nat) (source : Text) : Option (List Lexeme) := do
  if source.contains '\x00' then none
  let r ← Reader.run? 0 { line := firstLine } (normalizeLineEnds source)
  if r.brackets.isEmpty then
    let closing := List.replicate (r.blocks.length - 1) ⟨.dedent, r.line⟩
    some (r.found.reverse ++ closing ++ [⟨.finish, r.line⟩])
  else none

end Pruner.Syntax
