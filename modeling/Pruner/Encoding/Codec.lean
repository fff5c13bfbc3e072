import Pruner.Encoding.Utf8

/-!
Codecs, and what can go wrong with them. Which codecs there are is left open: all that is done with
files works for any choice of them.
-/
namespace Pruner

inductive CodecError
  | unknown (name : Text)
  | undecodable
  | unencodable (message : Text)
  /-- The bytes are turned down as a whole, such as for want of a mark at their start. -/
  | rejected (message : Text)
  deriving DecidableEq, Repr

namespace CodecError

def message : CodecError → Text
  | unknown name => "unknown encoding: ".toList ++ name
  | undecodable => "the bytes stand for no text".toList
  | unencodable message => message
  | rejected message => message

/-- Errors that only mean that a file is not stored in the way it says. -/
def isForeseen : CodecError → Bool
  | unknown _ => true
  | undecodable => true
  | unencodable _ => false
  | rejected _ => false

end CodecError

/-- A way to store text as bytes. With a limit only so many characters are read, and not many more
bytes than they take. -/
structure Codec where
  name : Text
  read : (limit : Option Nat) → Bytes → Except CodecError Text
  store : Text → Except CodecError Bytes

structure Codecs where
  find? : Text → Option Codec

namespace Codecs

def read (codecs : Codecs) (name : Text) (limit : Option Nat) (bs : Bytes) :
    Except CodecError Text :=
  match codecs.find? name with
  | none => .error (.unknown name)
  | some codec => codec.read limit bs

def store (codecs : Codecs) (name : Text) (t : Text) : Except CodecError Bytes :=
  match codecs.find? name with
  | none => .error (.unknown name)
  | some codec => codec.store t

end Codecs

def chunkSize : Nat := 8192

/-- Reads the first characters piece by piece. `soFar` gives the text that some first bytes
complete, and `whole` that of all bytes. -/
def readFirst (soFar whole : Bytes → Except CodecError Text) (wanted : Nat) (bs : Bytes) :
    Except CodecError Text :=
  go (bs.length + 1) 0 [] (max chunkSize wanted)
where
  go : (fuel done : Nat) → (text : Text) → (size : Nat) → Except CodecError Text
    | 0, _, text, _ => .ok (text.take wanted)
    | fuel + 1, done, text, size =>
      if wanted ≤ text.length then .ok (text.take wanted)
      else if bs.length ≤ done then do return (← whole bs).take wanted
      else do
        let next ← soFar (bs.take (done + size))
        let piece := min size (bs.length - done)
        let missing := wanted - next.length
        -- The missing characters are expected to take as many bytes as those of this piece.
        let guess := match next.length - text.length with
          | 0 => missing
          | n + 1 => max missing (piece * missing / (n + 1))
        go fuel (done + piece) next (max chunkSize guess)

end Pruner
