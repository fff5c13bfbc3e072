import Pruner.Fault

namespace Pruner.StarImport

open Pruner.Text Pruner.Token

inductive Part
  | char (c : Char)
  | whole
  deriving DecidableEq, Repr

def controlEscapes : List (Char × Char) :=
  [('a', '\x07'), ('b', '\x08'), ('f', '\x0c'), ('n', '\n'), ('r', '\r'), ('t', '\t'), ('v', '\x0b'),
    ('\\', '\\')]

def isLetter (c : Char) : Bool := ('a' ≤ c && c ≤ 'z') || ('A' ≤ c && c ≤ 'Z')

def reference (text : Text) (index position : Nat) : Edit (List Part) :=
  if index = 0 then .ok [.whole] else .error (.template (.noSuchGroup index) text position)

/-- Splits off the name in front of a `>`. A backslash takes the next character with it, unless it
is the last of all. -/
def splitName : Text → Text × Text
  | [] => ([], [])
  | ['\\'] => ([], ['\\'])
  | '\\' :: c :: cs => let (name, rest) := splitName cs; ('\\' :: c :: name, rest)
  | c :: cs => if c == '>' then ([], c :: cs) else let (name, rest) := splitName cs; (c :: name, rest)

-- The decimal digits of each script come in tens.
def digitValue? (c : Char) : Option Nat :=
  let range? := ((48, 57) :: decimalRanges).find? fun range =>
    range.1 ≤ c.toNat && c.toNat ≤ range.2
  range?.map fun range => (c.toNat - range.1) % 10

/-- The number that a group is named by: blanks around it, a sign and single underscores between
digits are allowed. -/
def groupNumber? (name : Text) : Option Nat := do
  let name := trim name
  let runs := pieces (· == '_') (if name.head?.any ("+-".toList.contains ·) then name.tail else name)
  if runs.any (·.isEmpty) then none
  else
    let digits ← runs.flatten.mapM digitValue?
    let number := digits.foldl (fun n d => n * 10 + d) 0
    if name.head? == some '-' && number != 0 then none else some number

/-- The reference `\g<name>`, of which `rest` follows the `g`, and the length of `<name>`. `here` is
the position of `rest`. -/
def groupReference (text : Text) (here : Nat) (rest : Text) : Edit (List Part) × Nat :=
  match rest with
  | '<' :: cs =>
    let (name, after) := splitName cs
    let result :=
      if name.isEmpty then .error (.template .missingGroupName text (here + 1))
      else if after.head? != some '>' then .error (.template .unterminatedName text (here + 1))
      else if name.head?.any isIdentifierStart && name.all isIdentifierPart then
        .error (.unknownGroup name)
      else
        match groupNumber? name with
        | some index => reference text index (here + 1)
        | none => .error (.template (.badGroupName name) text (here + 1))
    (result, name.length + if after.head? == some '>' then 2 else 1)
  | _ => (.error (.template .missingBracket text here), 0)

def escapeParts (text : Text) (here : Nat) (rest : Text) : Edit (List Part) × Nat :=
  let octal (digits : Text) : Nat := digits.foldl (fun n c => n * 8 + (c.toNat - 48)) 0
  match rest with
  | [] => (.error (.template .unfinishedEscape text here), 0)
  | c :: cs =>
    if c == 'g' then
      let (result, n) := groupReference text (here + 2) cs
      (result, n + 1)
    else if c == '0' then
      let more := (cs.take 2).takeWhile isOctalDigit
      (.ok [.char (Char.ofNat (octal more % 256))], more.length + 1)
    else if isDigit c then
      let three := rest.take 3
      if three.length = 3 && three.all isOctalDigit then
        if octal three > 255 then (.error (.template (.octalTooLarge ('\\' :: three)) text here), 3)
        else (.ok [.char (Char.ofNat (octal three))], 3)
      else
        let digits := (rest.take 2).takeWhile isDigit
        let index := digits.foldl (fun n d => n * 10 + (d.toNat - 48)) 0
        (reference text index (here + 1), digits.length)
    else
      match controlEscapes.lookup c with
      | some d => (.ok [.char d], 1)
      | none =>
        if isLetter c then (.error (.template (.badEscape ['\\', c]) text here), 1)
        else (.ok [.char '\\', .char c], 1)

def parse (text : Text) : Edit (List Part) :=
  go 0 0 text
where
  /-- `skip` characters belong to an escape already read; `here` is the position. -/
  go : (skip here : Nat) → Text → Edit (List Part)
    | _, _, [] => .ok []
    | skip + 1, here, _ :: cs => go skip (here + 1) cs
    | 0, here, c :: cs =>
      if c == '\\' then do
        let (result, n) := escapeParts text here cs
        -- A backslash at the end is found out before what stands in front of it is looked at.
        let parts ← if cs.drop n == ['\\'] then
            .error (.template .unfinishedEscape text (text.length - 1))
          else result
        let rest ← go n (here + 1) cs
        .ok (parts ++ rest)
      else do
        let rest ← go 0 (here + 1) cs
        .ok (.char c :: rest)

def fill (parts : List Part) : Text :=
  parts.map fun
    | .char c => c
    | .whole => '*'

def expand (line : Text) (names : List Text) : Edit Text := do
  let parts ← parse (join ", ".toList (sortDistinct names))
  .ok (line.flatMap fun c => if c == '*' then fill parts else [c])

end Pruner.StarImport
