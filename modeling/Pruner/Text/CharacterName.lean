import Pruner.Text.Basic
import Pruner.Text.CharacterNameTable

namespace Pruner.Text

def upper (c : Char) : Char :=
  if 'a' ≤ c ∧ c ≤ 'z' then Char.ofNat (c.toNat - 32) else c

def hexValue? (t : Text) : Option Nat :=
  if t.isEmpty then none
  else t.foldlM (fun n c =>
    let d := c.toNat
    if 48 ≤ d && d ≤ 57 then some (n * 16 + (d - 48))
    else if 65 ≤ d && d ≤ 70 then some (n * 16 + (d - 55))
    else if 97 ≤ d && d ≤ 102 then some (n * 16 + (d - 87))
    else none) 0

def numberIfNamed? (name line : Text) : Option Nat :=
  let number := line.takeWhile (· != ' ')
  if line.drop (number.length + 1) == name then hexValue? number else none

def ideographRanges : List (Nat × Nat) :=
  [(0x3400, 0x4DBF), (0x4E00, 0x9FFF), (0x20000, 0x2A6DF), (0x2A700, 0x2B738), (0x2B740, 0x2B81D),
    (0x2B820, 0x2CEA1), (0x2CEB0, 0x2EBE0), (0x30000, 0x3134A)]

def ideograph? (digits : Text) : Option Nat := do
  let n ← hexValue? digits
  if (digits.length == 4 || digits.length == 5) && inRanges ideographRanges n then return n
  else none

def syllableLeads : List String :=
  ["G", "GG", "N", "D", "DD", "R", "M", "B", "BB", "S", "SS", "", "J", "JJ", "C", "K", "T", "P", "H"]

def syllableVowels : List String :=
  ["A", "AE", "YA", "YAE", "EO", "E", "YEO", "YE", "O", "WA", "WAE", "OE", "YO", "U", "WEO", "WE",
    "WI", "YU", "EU", "YI", "I"]

def syllableTails : List String :=
  ["", "G", "GG", "GS", "N", "NJ", "NH", "D", "L", "LG", "LM", "LB", "LS", "LT", "LP", "LH", "M",
    "B", "BS", "S", "SS", "NG", "J", "C", "K", "T", "P", "H"]

def longestName? (names : List String) (t : Text) : Option (Nat × Nat) :=
  names.zipIdx.foldl (fun best (name, i) =>
    let longer := match best with
      | some (_, length) => length < name.length
      | none => true
    if startsWith name.toList t && longer then some (i, name.length) else best) none

def syllable? (t : Text) : Option Nat := do
  let (lead, length) ← longestName? syllableLeads t
  let t := t.drop length
  let (vowel, length) ← longestName? syllableVowels t
  let t := t.drop length
  let (tail, length) ← longestName? syllableTails t
  if (t.drop length).isEmpty then return 0xAC00 + (lead * 21 + vowel) * 28 + tail else none

def characterNamed? (name : Text) : Option Nat :=
  let name := name.map upper
  let ideographs := "CJK UNIFIED IDEOGRAPH-".toList
  let syllables := "HANGUL SYLLABLE ".toList
  if startsWith ideographs name then ideograph? (name.drop ideographs.length)
  else if startsWith syllables name then syllable? (name.drop syllables.length)
  else (pieces (· == '\n') characterNameTable.toList).findSome? fun line =>
    numberIfNamed? name (trimLeft line)

end Pruner.Text
