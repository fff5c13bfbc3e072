import Pruner.Text.Basic

namespace Pruner

structure CharRange where
  low : Char
  high : Char
  deriving DecidableEq, Repr

namespace CharRange

def contains (r : CharRange) (c : Char) : Bool :=
  r.low.toNat ≤ c.toNat && c.toNat ≤ r.high.toNat

def single (c : Char) : CharRange := ⟨c, c⟩

end CharRange

inductive GlobPart
  | run
  | any
  | literal (c : Char)
  | oneOf (negated : Bool) (ranges : List CharRange)
  deriving DecidableEq, Repr

namespace GlobPart

def admits (part : GlobPart) (c : Char) : Bool :=
  match part with
  | run => false
  | any => true
  | literal d => c == d
  | oneOf negated ranges => ranges.any (·.contains c) != negated

end GlobPart

namespace Glob

/-- The text between brackets, if they are closed. A closing bracket right at the start, or right
after an exclamation mark there, belongs to the text. -/
def bracketed? (t : Text) : Option Text :=
  let mark := if t.head? == some '!' then 1 else 0
  let start := if (t.drop mark).head? == some ']' then mark + 1 else mark
  let tail := t.drop start
  let rest := tail.takeWhile (· != ']')
  if rest.length < tail.length then some (t.take start ++ rest) else none

def hyphen? (t : Text) (start : Nat) : Option Nat :=
  ((t.drop start).findIdx? (· == '-')).map (· + start)

/-- The text in brackets cut at the hyphens that make ranges, from `start` on: the two characters
after such a hyphen belong to what follows it. -/
def cutRanges : (fuel : Nat) → (start : Nat) → Text → List Text
  | 0, _, t => [t]
  | fuel + 1, start, t =>
    match hyphen? t start with
    | none => [t]
    | some k => t.take k :: cutRanges fuel 2 (t.drop (k + 1))

def closeLast : List Text → List Text
  | [] => []
  | [t] => [t]
  | [t, []] => [t ++ ['-']]
  | t :: rest => t :: closeLast rest

def dropEmpty : List Text → List Text
  | [] => []
  | t :: rest =>
    match dropEmpty rest with
    | [] => [t]
    | u :: rest =>
      match t.getLast?, u with
      | some low, high :: tail =>
        if high.toNat < low.toNat then (t.dropLast ++ tail) :: rest else t :: u :: rest
      | _, _ => t :: u :: rest

def ranges : List Text → List CharRange
  | [] => []
  | [t] => t.map .single
  | t :: u :: rest =>
    match t.getLast?, u with
    | some low, high :: _ => t.dropLast.map .single ++ ⟨low, high⟩ :: (ranges (u :: rest)).drop 1
    | _, _ => .single '-' :: ranges (u :: rest)

def bracketPart (inner : Text) : GlobPart :=
  let start := if inner.head? == some '!' then 2 else 1
  let texts := if inner.contains '-' then
      dropEmpty (closeLast (cutRanges inner.length start inner))
    else [inner]
  match texts with
  | ('!' :: t) :: rest => .oneOf true (ranges (t :: rest))
  | texts => .oneOf false (ranges texts)

/-- Reads a pattern. `skip` characters belong to a list in brackets that has been read. -/
def parseFrom : (skip : Nat) → Text → List GlobPart
  | _, [] => []
  | skip + 1, _ :: cs => parseFrom skip cs
  | 0, c :: cs =>
    if c == '*' then .run :: parseFrom 0 cs
    else if c == '?' then .any :: parseFrom 0 cs
    else if c == '[' then
      match bracketed? cs with
      | some inner => bracketPart inner :: parseFrom (inner.length + 1) cs
      | none => .literal c :: parseFrom 0 cs
    else .literal c :: parseFrom 0 cs

def parse (pattern : Text) : List GlobPart :=
  parseFrom 0 pattern

def someEnd (p : Text → Bool) : Text → Bool
  | [] => p []
  | c :: cs => p (c :: cs) || someEnd p cs

def accepts : List GlobPart → Text → Bool
  | [], t => t.isEmpty
  | .run :: parts, t => someEnd (accepts parts) t
  | _ :: _, [] => false
  | part :: parts, c :: cs => part.admits c && accepts parts cs

def fits (pattern name : Text) : Bool :=
  accepts (parse pattern) name

end Glob

end Pruner
