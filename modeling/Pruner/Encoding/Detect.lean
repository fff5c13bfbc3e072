import Pruner.Encoding.Codec

namespace Pruner.Encoding

open Pruner.Text

def fallback : Text := "latin-1".toList

def splitLine (bs : Bytes) : Bytes × Bytes :=
  let line := bs.takeWhile (· != 10)
  match bs.dropWhile (· != 10) with
  | newline :: rest => (line ++ [newline], rest)
  | [] => (line, [])

def isMargin (c : Char) : Bool :=
  c == ' ' || c == '\t' || c.toNat == 12

def isNamePart (c : Char) : Bool :=
  c.isAlphanum || c == '_' || c == '-' || c == '.'

def nameAfterCoding? : Text → Option Text
  | [] => none
  | c :: cs =>
    let rest := (c :: cs).drop 6
    let here? :=
      if startsWith "coding".toList (c :: cs) && rest.head?.any (fun d => d == ':' || d == '=') then
        let name := ((rest.drop 1).dropWhile fun d => d == ' ' || d == '\t').takeWhile isNamePart
        if name.isEmpty then none else some name
      else none
    match here? with
    | some name => some name
    | none => nameAfterCoding? cs

def asciiText? (bs : Bytes) : Option Text :=
  bs.mapM fun b => if b < 0x80 then some (Char.ofNat b.toNat) else none

def cookie? (line : Bytes) : Option Text := do
  let text ← asciiText? line
  match text.dropWhile isMargin with
  | '#' :: comment => nameAfterCoding? (comment.takeWhile (· != '\n'))
  | _ => none

def isIdle (line : Bytes) : Bool :=
  match line.dropWhile fun b => b == 32 || b == 9 || b == 12 with
  | [] => true
  | b :: _ => b == 35 || b == 13 || b == 10

def usualName (name : Text) : Text :=
  let start := (name.take 12).map fun c => if c == '_' then '-' else c.toLower
  let is (s : String) : Bool := start == s.toList || startsWith (s.toList ++ ['-']) start
  if is "utf-8" then "utf-8".toList
  else if is "latin-1" || is "iso-8859-1" || is "iso-latin-1" then "iso-8859-1".toList
  else name

/-- The encoding that a comment asks for. In a file with a signature it must be that of the
signature. -/
def ofCookie? (codecs : Codecs) (signed : Bool) (cookie : Text) : Option Text := do
  let name := usualName cookie
  let codec ← codecs.find? name
  if signed then
    if codec.name == "utf-8".toList then some (name ++ "-sig".toList) else none
  else some name

def asked? (codecs : Codecs) (bs : Bytes) : Option Text :=
  let signed := Utf8.signature.isPrefixOf bs
  let usual := if signed then "utf-8-sig".toList else "utf-8".toList
  let (first, rest) := splitLine (if signed then bs.drop 3 else bs)
  match cookie? first with
  | some cookie => ofCookie? codecs signed cookie
  | none =>
    if first.isEmpty || !isIdle first then some usual
    else
      match cookie? (splitLine rest).1 with
      | some cookie => ofCookie? codecs signed cookie
      | none => some usual

/-- The encoding of a file, which must read at least up to the limit, if there is one. An error that
is not foreseen is passed on. -/
def detect (codecs : Codecs) (limit : Option Nat) (bs : Bytes) : Except CodecError Text :=
  let name := (asked? codecs bs).getD fallback
  match codecs.read name limit bs with
  | .ok _ => .ok name
  | .error e => if e.isForeseen then .ok fallback else .error e

end Pruner.Encoding
