import Pruner.Text.Category

namespace Pruner

abbrev Text := List Char

namespace Text

def isBlank (c : Char) : Bool :=
  let n := c.toNat
  n == 32 || (9 ≤ n && n ≤ 13) || (28 ≤ n && n ≤ 31) || n == 0x85 || n == 0xA0 || n == 0x1680 ||
    (0x2000 ≤ n && n ≤ 0x200A) || n == 0x2028 || n == 0x2029 || n == 0x202F || n == 0x205F ||
    n == 0x3000

def isWord (c : Char) : Bool :=
  let n := c.toNat
  if n < 128 then
    (48 ≤ n && n ≤ 57) || (65 ≤ n && n ≤ 90) || n == 95 || (97 ≤ n && n ≤ 122)
  else
    inRanges letterRanges n || inRanges decimalRanges n || inRanges letterNumberRanges n ||
      inRanges otherNumberRanges n

def isIdentifierStart (c : Char) : Bool :=
  let n := c.toNat
  if n < 128 then
    (65 ≤ n && n ≤ 90) || n == 95 || (97 ≤ n && n ≤ 122)
  else
    inRanges [(0x1885, 0x1886), (0x2118, 0x2118), (0x212E, 0x212E)] n ||
      ((inRanges letterRanges n || inRanges letterNumberRanges n) &&
        !inRanges [(0x37A, 0x37A), (0xE33, 0xE33), (0xEB3, 0xEB3), (0x2E2F, 0x2E2F),
          (0xFC5E, 0xFC63), (0xFDFA, 0xFDFB), (0xFE70, 0xFE70), (0xFE72, 0xFE72), (0xFE74, 0xFE74),
          (0xFE76, 0xFE76), (0xFE78, 0xFE78), (0xFE7A, 0xFE7A), (0xFE7C, 0xFE7C), (0xFE7E, 0xFE7E),
          (0xFF9E, 0xFF9F)] n)

def isIdentifierPart (c : Char) : Bool :=
  let n := c.toNat
  isIdentifierStart c ||
    if n < 128 then 48 ≤ n && n ≤ 57
    else
      inRanges markRanges n || inRanges decimalRanges n || inRanges connectorRanges n ||
        inRanges [(0xB7, 0xB7), (0x387, 0x387), (0xE33, 0xE33), (0xEB3, 0xEB3), (0x1369, 0x1371),
          (0x19DA, 0x19DA), (0xFF9E, 0xFF9F)] n

def trimLeft (t : Text) : Text :=
  t.dropWhile isBlank

def trimRight (t : Text) : Text :=
  (t.reverse.dropWhile isBlank).reverse

def trim (t : Text) : Text :=
  trimRight (trimLeft t)

def startsWith (start t : Text) : Bool :=
  start.isPrefixOf t

def endsWith (tail t : Text) : Bool :=
  tail.isSuffixOf t

def occursIn (part : Text) : Text → Bool
  | [] => part.isEmpty
  | c :: cs => part.isPrefixOf (c :: cs) || occursIn part cs

def pieces (p : Char → Bool) (t : Text) : List Text :=
  go [] t
where
  go (held : Text) : Text → List Text
    | [] => [held.reverse]
    | c :: cs => if p c then held.reverse :: go [] cs else go (c :: held) cs

def commaPieces (t : Text) : List Text :=
  pieces (· == ',') t

def words (t : Text) : List Text :=
  (pieces isBlank t).filter (!·.isEmpty)

def join (sep : Text) : List Text → Text
  | [] => []
  | [t] => t
  | t :: u :: ts => t ++ sep ++ join sep (u :: ts)

/-- The physical lines of a text, each with its line feed; only the last may lack one. -/
def lines (t : Text) : List Text :=
  go [] t
where
  go (held : Text) : Text → List Text
    | [] => if held.isEmpty then [] else [held.reverse]
    | c :: cs => if c == '\n' then ('\n' :: held).reverse :: go [] cs else go (c :: held) cs

def isLineBreak (c : Char) : Bool :=
  let n := c.toNat
  (10 ≤ n && n ≤ 13) || (28 ≤ n && n ≤ 30) || n == 0x85 || n == 0x2028 || n == 0x2029

def firstDisplayLine (t : Text) : Text :=
  t.takeWhile (!isLineBreak ·)

def le : Text → Text → Bool
  | [], _ => true
  | _ :: _, [] => false
  | a :: as, b :: bs => a.toNat < b.toNat || (a == b && le as bs)

def sort (ts : List Text) : List Text :=
  ts.mergeSort le

def sortDistinct (ts : List Text) : List Text :=
  sort ts.eraseDups

/-- `t` cut at the first occurrence of `word` as a whole word: what stands before it and after it.
`inside` says that the character before `t` is a word character. -/
def cutAtWord? (word : Text) (inside : Bool) : Text → Option (Text × Text)
  | [] => none
  | c :: cs =>
    let rest := (c :: cs).drop word.length
    if !inside && word.isPrefixOf (c :: cs) && !rest.head?.any isWord then
      some ([], rest)
    else
      (cutAtWord? word (isWord c) cs).map fun (before, after) => (c :: before, after)

def hasWord (word t : Text) : Bool :=
  (cutAtWord? word false t).isSome

def erase (part t : Text) : Text :=
  go 0 t
where
  go : Nat → Text → Text
    | _, [] => []
    | skip + 1, _ :: cs => go skip cs
    | 0, c :: cs => if part.isPrefixOf (c :: cs) then go (part.length - 1) cs else c :: go 0 cs

end Text

end Pruner
