import Pruner.Text.Basic
import Pruner.Text.NormalTable

namespace Pruner.Text

def hexNumber (t : Text) : Nat :=
  t.foldl (fun n c => n * 16 + if c.toNat < 58 then c.toNat - 48 else c.toNat - 87) 0

structure TableEntry where
  first : Nat
  last : Nat
  numbers : List Nat
  deriving DecidableEq, Repr

/-- Reads an entry such as `1d400-1d419:41` or `e9:65+301`. -/
def TableEntry.ofText (t : Text) : TableEntry :=
  let range := t.takeWhile (· != ':')
  let numbers := (pieces (· == '+') (t.drop (range.length + 1))).map hexNumber
  match (pieces (· == '-') range).map hexNumber with
  | [first, last] => ⟨first, last, numbers⟩
  | ns => ⟨ns.headD 0, ns.headD 0, numbers⟩

def readTable (table : String) : List TableEntry :=
  (words table.toList).map TableEntry.ofText

def decompositions : List TableEntry := readTable decompositionTable

def markClasses : List TableEntry := readTable markClassTable

def compositions : List TableEntry := readTable compositionTable

def syllableParts (n : Nat) : List Nat :=
  let i := n - 0xAC00
  let tail := i % 28
  [0x1100 + i / 588, 0x1161 + i % 588 / 28] ++ if tail == 0 then [] else [0x11A7 + tail]

def decompose (n : Nat) : List Nat :=
  if n < 0xA0 then [n]
  else if 0xAC00 ≤ n && n < 0xD7A4 then syllableParts n
  else
    match decompositions.find? fun entry => entry.first ≤ n && n ≤ entry.last with
    | some ⟨first, _, [target]⟩ => [target + (n - first)]
    | some entry => entry.numbers
    | none => [n]

def markClass (n : Nat) : Nat :=
  if n < 0x300 then 0
  else
    match markClasses.find? fun entry => entry.first ≤ n && n ≤ entry.last with
    | some entry => entry.numbers.headD 0
    | none => 0

def insertMark (n : Nat) : List Nat → List Nat
  | [] => [n]
  | m :: rest => if markClass n < markClass m then n :: m :: rest else m :: insertMark n rest

/-- Marks in the order of their classes. `held` has the marks since the last other character. -/
def orderMarks (held : List Nat) : List Nat → List Nat
  | [] => held
  | n :: rest =>
    if markClass n == 0 then held ++ n :: orderMarks [] rest else orderMarks (insertMark n held) rest

def compose? (a b : Nat) : Option Nat :=
  if 0x1100 ≤ a && a < 0x1113 && 0x1161 ≤ b && b < 0x1176 then
    some (0xAC00 + ((a - 0x1100) * 21 + (b - 0x1161)) * 28)
  else if 0xAC00 ≤ a && a < 0xD7A4 && (a - 0xAC00) % 28 == 0 && 0x11A7 < b && b < 0x11C3 then
    some (a + (b - 0x11A7))
  else (compositions.find? fun entry => entry.numbers == [a, b]).map (·.first)

/-- Puts characters together. `starter` is the last character that is no mark, and `marks` are those
after it that could not be put together with it, the last one first. -/
def composeFrom (starter : Option Nat) (marks : List Nat) : List Nat → List Nat
  | [] => starter.toList ++ marks.reverse
  | n :: rest =>
    let free := match marks with
      | [] => true
      | m :: _ => markClass m < markClass n
    match starter.bind fun s => if free then compose? s n else none with
    | some joined => composeFrom (some joined) marks rest
    | none =>
      if markClass n == 0 then starter.toList ++ marks.reverse ++ composeFrom (some n) [] rest
      else composeFrom starter (n :: marks) rest

def normalForm (t : Text) : Text :=
  if t.all (·.toNat < 0xA0) then t
  else
    let parts := orderMarks [] (t.flatMap fun c => decompose c.toNat)
    (composeFrom none [] parts).map Char.ofNat

end Pruner.Text
