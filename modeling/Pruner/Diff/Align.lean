/-!
Aligning two lists: which stretches they share, and what replaces what in between.

The longest shared stretch is taken first, the earliest one in the old list and then in the new
list, and the parts before and after it are aligned in the same way. In a long list the items that
occur often cannot start a shared stretch, but a stretch may be extended over them.
-/
namespace Pruner.Diff

inductive Chunk (α : Type)
  | keep (items : List α)
  | change (old new : List α)
  deriving DecidableEq, Repr

namespace Chunk

variable {α : Type}

def old : Chunk α → List α
  | keep items => items
  | change old _ => old

def new : Chunk α → List α
  | keep items => items
  | change _ new => new

def isChange : Chunk α → Bool
  | keep _ => false
  | change _ _ => true

end Chunk

structure Stretch where
  oldStart : Nat
  newStart : Nat
  size : Nat
  deriving DecidableEq, Repr

variable {α : Type} [BEq α]

/-- The lengths of the shared runs that end at the old item `x` and at each new item. `before` has
those that end at the old item before `x`. -/
def runLengths (usable : α → Bool) (x : α) (new : List α) (before : List Nat) : List Nat :=
  List.zipWith (fun y k => if x == y && usable y then k + 1 else 0) new (0 :: before)

/-- The longer of a stretch and the runs that end at old position `i` and at new positions from `j`
on; of equal ones the first. -/
def longer (i : Nat) : (j : Nat) → List Nat → Stretch → Stretch
  | _, [], best => best
  | j, k :: ks, best =>
    longer i (j + 1) ks (if best.size < k then ⟨i + 1 - k, j + 1 - k, k⟩ else best)

def longestFrom (usable : α → Bool) (new : List α) :
    (i : Nat) → (before : List Nat) → Stretch → List α → Stretch
  | _, _, best, [] => best
  | i, before, best, x :: old =>
    let row := runLengths usable x new before
    longestFrom usable new (i + 1) row (longer i 0 row best) old

def sharedStart : List α → List α → Nat
  | x :: xs, y :: ys => if x == y then sharedStart xs ys + 1 else 0
  | _, _ => 0

def extend (old new : List α) (s : Stretch) : Stretch :=
  let before := sharedStart (old.take s.oldStart).reverse (new.take s.newStart).reverse
  let after := sharedStart (old.drop (s.oldStart + s.size)) (new.drop (s.newStart + s.size))
  ⟨s.oldStart - before, s.newStart - before, before + s.size + after⟩

def longest (usable : α → Bool) (old new : List α) : Stretch :=
  extend old new (longestFrom usable new 0 (List.replicate new.length 0) ⟨0, 0, 0⟩ old)

def changed (old new : List α) : List (Chunk α) :=
  if old.isEmpty && new.isEmpty then [] else [.change old new]

def parts (usable : α → Bool) : (fuel : Nat) → (old new : List α) → List (Chunk α)
  | 0, old, new => changed old new
  | fuel + 1, old, new =>
    let s := longest usable old new
    if s.size == 0 then changed old new
    else
      parts usable fuel (old.take s.oldStart) (new.take s.newStart) ++
        .keep ((old.drop s.oldStart).take s.size) ::
          parts usable fuel (old.drop (s.oldStart + s.size)) (new.drop (s.newStart + s.size))

def joinKept : List (Chunk α) → List (Chunk α)
  | [] => []
  | .keep xs :: rest =>
    match joinKept rest with
    | .keep ys :: rest => .keep (xs ++ ys) :: rest
    | rest => .keep xs :: rest
  | .change old new :: rest => .change old new :: joinKept rest

def frequent (new : List α) : List α :=
  if new.length < 200 then []
  else new.eraseDups.filter fun y => new.length / 100 + 1 < new.count y

def align (old new : List α) : List (Chunk α) :=
  let often := frequent new
  joinKept (parts (fun y => !often.contains y) (old.length + 1) old new)

end Pruner.Diff
