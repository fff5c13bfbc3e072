import Pruner.Token.Scan

namespace Pruner.UselessPass

open Pruner.Text Pruner.Line

structure Memory where
  kind : Option TokenKind := none
  lastPass : Option (Nat × Text) := none
  line : Text := []
  deriving DecidableEq, Repr

def isAtom : TokenKind → Bool
  | .name => true
  | .number => true
  | .string => true
  | _ => false

def isPass (token : Token) : Bool :=
  token.kind == .name && trim token.line == "pass".toList

def afterPass (memory : Memory) (token : Token) : Bool :=
  !isPass token && isAtom token.kind &&
    memory.lastPass.any fun (row, blanks) =>
      row + 1 == token.row && blanks == indentation token.line

def notFirst (memory : Memory) (token : Token) : Bool :=
  isPass token && memory.kind != some .indent && !isJoined memory.line

def remember (memory : Memory) (token : Token) : Memory where
  kind := some token.kind
  lastPass := if isPass token then some (token.row, indentation token.line) else memory.lastPass
  line := token.line

def rows (memory : Memory) : List Token → List Nat
  | [] => []
  | token :: rest =>
    (if afterPass memory token then [token.row - 1] else []) ++
      (if notFirst memory token then [token.row] else []) ++
      rows (remember memory token) rest

def rowsOf (source : Text) : List Nat × Option ScanError :=
  let scan := Token.scan source
  (rows {} scan.tokens, scan.error)

def dropRows (marked : List Nat) : (row : Nat) → List Text → List Text
  | _, [] => []
  | row, line :: rest =>
    if marked.contains row then dropRows marked (row + 1) rest
    else line :: dropRows marked (row + 1) rest

/-- The lines of a source without useless `pass` statements. A source that cannot be read to its
end stays as it is. -/
def filterLines (source : Text) : List Text :=
  match rowsOf source with
  | (marked, none) => dropRows marked 1 (lines source)
  | (_, some _) => lines source

def filter (source : Text) : Text :=
  (filterLines source).flatten

end Pruner.UselessPass
