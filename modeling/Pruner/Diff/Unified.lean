import Pruner.Diff.Align
import Pruner.Text.Basic

namespace Pruner.Diff

open Pruner.Text

def context : Nat := 3

structure Hunk where
  oldStart : Nat
  newStart : Nat
  chunks : List (Chunk Text)
  deriving DecidableEq, Repr

namespace Hunk

def old (h : Hunk) : List Text :=
  h.chunks.flatMap Chunk.old

def new (h : Hunk) : List Text :=
  h.chunks.flatMap Chunk.new

end Hunk

/-- Cuts parts into hunks wherever unchanged lines leave no context in common. `held` has the parts
of the current hunk, which starts after `oldStart` and `newStart` lines. -/
def cut (oldStart newStart : Nat) (held : List (Chunk Text)) : List (Chunk Text) → List Hunk
  | [] => if held.any Chunk.isChange then [⟨oldStart, newStart, held⟩] else []
  | .keep lines :: rest =>
    if lines.length > 2 * context then
      let hunk : Hunk := ⟨oldStart, newStart, held ++ [.keep (lines.take context)]⟩
      let skipped := lines.length - context
      hunk :: cut (oldStart + (held.flatMap Chunk.old).length + skipped)
        (newStart + (held.flatMap Chunk.new).length + skipped)
        [.keep (lines.drop skipped)] rest
    else cut oldStart newStart (held ++ [.keep lines]) rest
  | .change old new :: rest => cut oldStart newStart (held ++ [.change old new]) rest

def trimLast : List (Chunk Text) → List (Chunk Text)
  | [] => []
  | [.keep lines] => [.keep (lines.take context)]
  | chunk :: rest => chunk :: trimLast rest

def hunks (chunks : List (Chunk Text)) : List Hunk :=
  match trimLast chunks with
  | .keep lines :: rest =>
    let skipped := lines.length - context
    cut skipped skipped [.keep (lines.drop skipped)] rest
  | rest => cut 0 0 [] rest

/-- A range of lines: its first line and its length. The length one is left out, and an empty range
has the line before it. -/
def range (start length : Nat) : Text :=
  let number (n : Nat) : Text := (Nat.repr n).toList
  if length == 1 then number (start + 1)
  else if length == 0 then number start ++ ",0".toList
  else number (start + 1) ++ ',' :: number length

namespace Hunk

def header (h : Hunk) : Text :=
  "@@ -".toList ++ range h.oldStart h.old.length ++ " +".toList ++
    range h.newStart h.new.length ++ " @@\n".toList

def body (h : Hunk) : List Text :=
  h.chunks.flatMap fun
    | .keep lines => lines.map (' ' :: ·)
    | .change old new => old.map ('-' :: ·) ++ new.map ('+' :: ·)

end Hunk

def finished (line : Text) : Text :=
  if line.getLast? == some '\n' then line
  else line ++ "\n\\ No newline at end of file\n".toList

def unified (old new : List Text) (name : Text) : Text :=
  match hunks (align old new) with
  | [] => []
  | hs =>
    ("--- original/".toList ++ name ++ ['\n']) ++ ("+++ fixed/".toList ++ name ++ ['\n']) ++
      hs.flatMap fun h => h.header ++ h.body.flatMap finished

end Pruner.Diff
