import Pruner.Text.Basic

/-!
Text as bytes, one to four of them for a character, and reading it back byte by byte.

The reader accepts the shortest form of each character only, and no surrogates. A text may end
inside a character; whether that is an error is up to the caller.
-/
namespace Pruner

abbrev Bytes := List UInt8

namespace Utf8

def encodeChar (c : Char) : Bytes :=
  let n := c.toNat
  let tail (shift : Nat) : UInt8 := .ofNat (0x80 + n / shift % 64)
  if n < 0x80 then [.ofNat n]
  else if n < 0x800 then [.ofNat (0xC0 + n / 64), tail 1]
  else if n < 0x10000 then [.ofNat (0xE0 + n / 4096), tail 64, tail 1]
  else [.ofNat (0xF0 + n / 262144), tail 4096, tail 64, tail 1]

def encode (t : Text) : Bytes :=
  t.flatMap encodeChar

/-- Where the reader is: between characters, or inside one that needs more bytes. The next byte
must be from `low` to `high`. -/
inductive State
  | between
  | inside (needed value low high : Nat)
  deriving DecidableEq, Repr

def first (b : Nat) : Option (State × Text) :=
  if b < 0x80 then some (.between, [Char.ofNat b])
  else if b < 0xC2 then none
  else if b < 0xE0 then some (.inside 1 (b - 0xC0) 0x80 0xBF, [])
  else if b == 0xE0 then some (.inside 2 0 0xA0 0xBF, [])
  else if b == 0xED then some (.inside 2 13 0x80 0x9F, [])
  else if b < 0xF0 then some (.inside 2 (b - 0xE0) 0x80 0xBF, [])
  else if b == 0xF0 then some (.inside 3 0 0x90 0xBF, [])
  else if b < 0xF4 then some (.inside 3 (b - 0xF0) 0x80 0xBF, [])
  else if b == 0xF4 then some (.inside 3 4 0x80 0x8F, [])
  else none

def step (state : State) (byte : UInt8) : Option (State × Text) :=
  let b := byte.toNat
  match state with
  | .between => first b
  | .inside needed value low high =>
    if low ≤ b && b ≤ high then
      let value := value * 64 + (b - 0x80)
      if needed ≤ 1 then some (.between, [Char.ofNat value])
      else some (.inside (needed - 1) value 0x80 0xBF, [])
    else none

def run : State → Bytes → Option (State × Text)
  | state, [] => some (state, [])
  | state, b :: bs =>
    match step state b with
    | none => none
    | some (next, head) => (run next bs).map fun (last, rest) => (last, head ++ rest)

def decode? (bs : Bytes) : Option Text :=
  match run .between bs with
  | some (.between, t) => some t
  | _ => none

def signature : Bytes := [0xEF, 0xBB, 0xBF]

end Utf8

end Pruner
