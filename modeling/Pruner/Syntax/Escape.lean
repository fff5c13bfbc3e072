import Pruner.Syntax.Lex
import Pruner.Text.CharacterName

namespace Pruner.Syntax

open Pruner.Token (isHexDigit isOctalDigit)

def plainEscapes : List (Char × Nat) :=
  [('\\', 92), ('\'', 39), ('"', 34), ('a', 7), ('b', 8), ('f', 12), ('n', 10), ('r', 13), ('t', 9),
    ('v', 11)]

def hexEscape? (n : Nat) (t : Text) : Option Nat :=
  let digits := t.take n
  if digits.length = n && digits.all isHexDigit then some (digitsValue 16 digits) else none

/-- What a backslash followed by `t` denotes, and how many characters of `t` belong to it.
In bytes there are no escapes for characters. -/
def escape? (bytes : Bool) (t : Text) : Option (List Nat × Nat) :=
  match t with
  | [] => some ([92], 0)
  | c :: cs =>
    if c == '\n' then some ([], 1)
    else if let some n := plainEscapes.lookup c then some ([n], 1)
    else if isOctalDigit c then
      let digits := (t.take 3).takeWhile isOctalDigit
      let value := digitsValue 8 digits
      some ([if bytes then value % 256 else value], digits.length)
    else if c == 'x' then (hexEscape? 2 cs).map fun n => ([n], 3)
    else if bytes then some ([92, c.toNat], 1)
    else if c == 'u' then (hexEscape? 4 cs).map fun n => ([n], 5)
    else if c == 'U' then
      (hexEscape? 8 cs).bind fun n => if n ≤ 0x10FFFF then some ([n], 9) else none
    else if c == 'N' then
      match cs with
      | '\x7b' :: rest =>
        let name := rest.takeWhile (· != '\x7d')
        if name.length < rest.length then
          (Text.characterNamed? name).map fun n => ([n], name.length + 3)
        else none
      | _ => none
    else some ([92, c.toNat], 1)

def unescape? (bytes : Bool) (t : Text) : Option (List Nat) :=
  (go 0 [] t).map List.reverse
where
  /-- `found` holds the points so far, last first; `skip` characters belong to an escape. -/
  go : (skip : Nat) → (found : List Nat) → Text → Option (List Nat)
    | _, found, [] => some found
    | skip + 1, found, _ :: cs => go skip found cs
    | 0, found, c :: cs =>
      if c == '\\' then
        match escape? bytes cs with
        | some (points, n) => go n (points.reverse ++ found) cs
        | none => none
      else go 0 (c.toNat :: found) cs

def bodyPoints? (mark : StringMark) (t : Text) : Option (List Nat) :=
  if mark.bytes && t.any (·.toNat ≥ 128) then none
  else if mark.raw then some (t.map Char.toNat)
  else unescape? mark.bytes t

end Pruner.Syntax
