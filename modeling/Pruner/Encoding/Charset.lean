import Pruner.Encoding.Codec
import Pruner.Text.Printable

/-!
The codecs that the program comes with: UTF-8 with and without a signature, UTF-16, ASCII, ISO
8859-1 and 8859-15, and code page 1252.
-/
namespace Pruner

inductive Charset
  | utf8
  | utf8Signed
  | ascii
  | latin1
  | latin9
  | windows1252
  deriving DecidableEq, Repr

namespace Charset

-- Bytes of ISO 8859-15 that stand for other characters than their numbers.
def latin9Table : List (Nat × Nat) :=
  [(0xA4, 0x20AC), (0xA6, 0x160), (0xA8, 0x161), (0xB4, 0x17D), (0xB8, 0x17E), (0xBC, 0x152),
    (0xBD, 0x153), (0xBE, 0x178)]

-- Bytes 80 to 9F of code page 1252.
def windows1252Table : List (Nat × Nat) :=
  [(0x80, 0x20AC), (0x82, 0x201A), (0x83, 0x192), (0x84, 0x201E), (0x85, 0x2026), (0x86, 0x2020),
    (0x87, 0x2021), (0x88, 0x2C6), (0x89, 0x2030), (0x8A, 0x160), (0x8B, 0x2039), (0x8C, 0x152),
    (0x8E, 0x17D), (0x91, 0x2018), (0x92, 0x2019), (0x93, 0x201C), (0x94, 0x201D), (0x95, 0x2022),
    (0x96, 0x2013), (0x97, 0x2014), (0x98, 0x2DC), (0x99, 0x2122), (0x9A, 0x161), (0x9B, 0x203A),
    (0x9C, 0x153), (0x9E, 0x17E), (0x9F, 0x178)]

def charOf? (charset : Charset) (byte : UInt8) : Option Char :=
  let b := byte.toNat
  match charset with
  | ascii => if b < 0x80 then some (Char.ofNat b) else none
  | latin9 => some (Char.ofNat ((latin9Table.lookup b).getD b))
  | windows1252 =>
    if 0x80 ≤ b && b < 0xA0 then (windows1252Table.lookup b).map Char.ofNat
    else some (Char.ofNat b)
  | _ => some (Char.ofNat b)

def byteOf? (charset : Charset) (c : Char) : Option UInt8 :=
  (List.range 256).findSome? fun b =>
    if charset.charOf? (.ofNat b) == some c then some (.ofNat b) else none

def run (charset : Charset) (state : Utf8.State) (bs : Bytes) : Option (Utf8.State × Text) :=
  match charset with
  | utf8 | utf8Signed => Utf8.run state bs
  | _ => (bs.mapM charset.charOf?).map (state, ·)

def unsigned (charset : Charset) (t : Text) : Text :=
  match charset, t with
  | utf8Signed, c :: rest => if c.toNat == 0xFEFF then rest else t
  | _, _ => t

/-- The text that bytes stand for, or if more bytes may follow, the part of it that is complete. -/
def decode? (charset : Charset) (more : Bool) (bs : Bytes) : Option Text :=
  match charset.run .between bs with
  | some (.between, t) => some (charset.unsigned t)
  | some (_, t) => if more then some (charset.unsigned t) else none
  | none => none

def encode? (charset : Charset) (t : Text) : Option Bytes :=
  match charset with
  | utf8 => some (Utf8.encode t)
  | utf8Signed => some (Utf8.signature ++ Utf8.encode t)
  | _ => t.mapM charset.byteOf?

def shownChar (c : Char) : Text :=
  let n := c.toNat
  if n < 0x100 then '\\' :: 'x' :: Text.hex 2 n
  else if n < 0x10000 then '\\' :: 'u' :: Text.hex 4 n
  else '\\' :: 'U' :: Text.hex 8 n

def lackMessage (charset : Charset) (t : Text) : Text :=
  let lacks (c : Char) : Bool := (charset.byteOf? c).isNone
  let position := t.findIdx lacks
  let number (n : Nat) : Text := (Nat.repr n).toList
  let (kind, reason) := match charset with
    | ascii => ("ascii", "ordinal not in range(128)")
    | latin1 => ("latin-1", "ordinal not in range(256)")
    | _ => ("charmap", "character maps to <undefined>")
  let place := match (t.drop position).takeWhile lacks with
    | [c] => " codec can't encode character '".toList ++ shownChar c ++ "' in position ".toList ++
        number position
    | cs => " codec can't encode characters in position ".toList ++ number position ++ '-' ::
        number (position + cs.length - 1)
  Text.quoted kind.toList ++ place ++ ": ".toList ++ reason.toList

def codec (charset : Charset) (name : String) : Codec :=
  let decode (more : Bool) (bs : Bytes) : Except CodecError Text :=
    match charset.decode? more bs with
    | some t => .ok t
    | none => .error .undecodable
  { name := name.toList
    read := fun limit bs =>
      match limit with
      | none => decode false bs
      | some wanted => readFirst (decode true) (decode false) wanted bs
    store := fun t =>
      match charset.encode? t with
      | some bs => .ok bs
      | none => .error (.unencodable (charset.lackMessage t)) }

end Charset

namespace Utf16

def mark : Bytes := [0xFF, 0xFE]

def otherMark : Bytes := [0xFE, 0xFF]

def units (c : Char) : List Nat :=
  let n := c.toNat
  if n < 0x10000 then [n] else [0xD800 + (n - 0x10000) / 0x400, 0xDC00 + (n - 0x10000) % 0x400]

def encode (t : Text) : Bytes :=
  mark ++ (t.flatMap units).flatMap fun unit => [.ofNat (unit % 256), .ofNat (unit / 256)]

def isLead (unit : Nat) : Bool := 0xD800 ≤ unit && unit < 0xDC00

def isTrail (unit : Nat) : Bool := 0xDC00 ≤ unit && unit < 0xE000

/-- The numbers that pairs of bytes spell. One byte that is left over is an error unless more bytes
may follow. -/
def unitsOf? (big more : Bool) : Bytes → Option (List Nat)
  | [] => some []
  | [_] => if more then some [] else none
  | a :: b :: rest => do
    let unit := if big then a.toNat * 256 + b.toNat else b.toNat * 256 + a.toNat
    return unit :: (← unitsOf? big more rest)

def charsOf? (more : Bool) : List Nat → Option Text
  | [] => some []
  | u :: us =>
    if isLead u then
      match us with
      | [] => if more then some [] else none
      | v :: vs =>
        if isTrail v then do
          let c := Char.ofNat (0x10000 + (u - 0xD800) * 0x400 + (v - 0xDC00))
          return c :: (← charsOf? more vs)
        else none
    else if isTrail u then none
    else do return Char.ofNat u :: (← charsOf? more us)

def body (big more : Bool) (bs : Bytes) : Except CodecError Text :=
  match (unitsOf? big more bs).bind (charsOf? more) with
  | some t => .ok t
  | none => .error .undecodable

/-- The text after the mark. Bytes without a mark are read as well, before they are turned down. -/
def decode (more : Bool) (bs : Bytes) : Except CodecError Text :=
  if mark.isPrefixOf bs then body false more (bs.drop 2)
  else if otherMark.isPrefixOf bs then body true more (bs.drop 2)
  else do
    let t ← body false more bs
    if t.isEmpty then return []
    else .error (.rejected "UTF-16 stream does not start with BOM".toList)

def codec : Codec where
  name := "utf-16".toList
  read limit bs :=
    match limit with
    | none => decode false bs
    | some wanted => readFirst (decode true) (decode false) wanted bs
  store t := .ok (encode t)

end Utf16

namespace Codecs

def known : List (Codec × List String) :=
  [(Charset.utf8.codec "utf-8",
      ["utf_8", "u8", "utf", "utf8", "utf8_ucs2", "utf8_ucs4", "cp65001"]),
    (Charset.utf8Signed.codec "utf-8-sig", ["utf_8_sig"]),
    (Utf16.codec, ["utf_16", "u16", "utf16"]),
    (Charset.ascii.codec "ascii", ["ascii", "646", "ansi_x3.4_1968", "ansi_x3_4_1968",
      "ansi_x3.4_1986", "ansi_x3_4_1986", "cp367", "csascii", "ibm367", "iso646_us",
      "iso_646.irv_1991", "iso_646_irv_1991", "iso_ir_6", "us", "us_ascii"]),
    (Charset.latin1.codec "iso8859-1", ["latin_1", "8859", "cp819", "csisolatin1", "ibm819",
      "iso8859", "iso8859_1", "iso_8859_1", "iso_8859_1_1987", "iso_ir_100", "l1", "latin",
      "latin1"]),
    (Charset.latin9.codec "iso8859-15", ["iso8859_15", "iso_8859_15", "l9", "latin9"]),
    (Charset.windows1252.codec "cp1252", ["cp1252", "1252", "windows_1252"])]

/-- A name of a codec in lower case, with each run of other characters than letters, digits and
points in its middle turned into an underscore. -/
def normalName (name : Text) : Text :=
  let keeps (c : Char) : Bool := c.isAlphanum || c == '.'
  Text.join ['_'] ((Text.pieces (!keeps ·) (name.map Char.toLower)).filter (!·.isEmpty))

def builtin : Codecs where
  find? name :=
    let normal := String.ofList (normalName name)
    (known.find? fun entry => entry.2.contains normal).map (·.1)

end Codecs

end Pruner
