import Pruner.Diff.Align
import Mathlib.Data.List.Basic

/-!
The parts of two aligned lists: put together, they give the two lists again, and what they share is
shared. A list aligned with itself has nothing that replaces anything.

The search for the longest shared stretch goes through the old list item by item and holds, for each
new item, how far back the two lists agree. Items that cannot start a stretch end such a run.
-/
namespace Pruner.Diff

variable {α : Type}

section Runs

variable [BEq α] {usable : α → Bool}

/-- How far two lists agree from their starts on, in items that are usable. -/
def agreement (usable : α → Bool) : List α → List α → Nat
  | x :: xs, y :: ys => if x == y && usable y then agreement usable xs ys + 1 else 0
  | _, _ => 0

@[simp] theorem agreement_nil_right (xs : List α) : agreement usable xs [] = 0 := by
  cases xs <;> rfl

theorem sharedStart_eq (xs ys : List α) :
    sharedStart xs ys = agreement (fun _ => true) xs ys := by
  induction xs generalizing ys with
  | nil => rfl
  | cons x xs ih =>
    cases ys with
    | nil => rfl
    | cons y ys => rw [sharedStart, agreement, ih, Bool.and_true]

/-- The rows that the search holds: how far `before`, an old list read backwards, agrees with the
new items up to each place, also read backwards. `back` has the new items that were passed. -/
def rows (usable : α → Bool) (before : List α) : (back : List α) → List α → List Nat
  | _, [] => []
  | back, y :: ys => agreement usable before (y :: back) :: rows usable before (y :: back) ys

theorem rows_nil (back ys : List α) : rows usable [] back ys = List.replicate ys.length 0 := by
  induction ys generalizing back with
  | nil => rfl
  | cons y ys ih =>
    rw [rows, ih]
    rfl

/-- One more old item gives the next row. -/
theorem runLengths_rows (x : α) (before ys : List α) :
    runLengths usable x ys (rows usable before [] ys) = rows usable (x :: before) [] ys := by
  have hshift (back : List α) :
      List.zipWith (fun y k => if x == y && usable y then k + 1 else 0) ys
        (agreement usable before back :: rows usable before back ys) =
      rows usable (x :: before) back ys := by
    induction ys generalizing back with
    | nil => rfl
    | cons y ys ih =>
      rw [rows, List.zipWith_cons_cons, ih (y :: back)]
      rfl
  have hstart := hshift []
  rwa [agreement_nil_right] at hstart

variable [LawfulBEq α]

/-- Where two lists agree, they have the same items. -/
theorem exists_agreement (usable : α → Bool) (xs ys : List α) :
    ∃ shared xs' ys', xs = shared ++ xs' ∧ ys = shared ++ ys' ∧
      shared.length = agreement usable xs ys := by
  induction xs generalizing ys with
  | nil => exact ⟨[], [], ys, rfl, rfl, rfl⟩
  | cons x xs ih =>
    cases ys with
    | nil => exact ⟨[], x :: xs, [], rfl, rfl, rfl⟩
    | cons y ys =>
      rw [agreement]
      split
      · rename_i hxy
        rw [Bool.and_eq_true, beq_iff_eq] at hxy
        obtain ⟨shared, xs', ys', hxs, hys, hlen⟩ := ih ys
        refine ⟨x :: shared, xs', ys', by simp [hxs], by simp [hys, hxy.1], by simp [hlen]⟩
      · exact ⟨[], x :: xs, y :: ys, rfl, rfl, rfl⟩

/-- A list agrees with itself at least as far as with another one. -/
theorem agreement_le_right (usable : α → Bool) (xs ys : List α) :
    agreement usable xs ys ≤ agreement usable ys ys := by
  induction xs generalizing ys with
  | nil => exact Nat.zero_le _
  | cons x xs ih =>
    cases ys with
    | nil => exact Nat.le_refl _
    | cons y ys =>
      have hle := ih ys
      rw [agreement, agreement]
      by_cases hy : usable y = true
      · simp only [hy, beq_self_eq_true, Bool.and_true, if_true]
        split <;> omega
      · simp [hy]

theorem agreement_le_left (usable : α → Bool) (xs ys : List α) :
    agreement usable xs ys ≤ agreement usable xs xs := by
  induction xs generalizing ys with
  | nil => exact Nat.zero_le _
  | cons x xs ih =>
    cases ys with
    | nil => exact Nat.zero_le _
    | cons y ys =>
      have hle := ih ys
      rw [agreement, agreement]
      split
      · rename_i hxy
        rw [Bool.and_eq_true, beq_iff_eq] at hxy
        obtain ⟨rfl, hx⟩ := hxy
        simp only [hx, beq_self_eq_true, Bool.and_true, if_true]
        omega
      · exact Nat.zero_le _

/-- Without restriction a list agrees with itself to its end. -/
theorem sharedStart_self (xs : List α) : sharedStart xs xs = xs.length := by
  induction xs with
  | nil => rfl
  | cons x xs ih => simp [sharedStart, ih]

end Runs

section Stretches

/-- A stretch that is really shared: both lists have the same items there. -/
def Shared (old new : List α) (s : Stretch) : Prop :=
  ∃ before before' items after after', old = before ++ items ++ after ∧
    new = before' ++ items ++ after' ∧ before.length = s.oldStart ∧ before'.length = s.newStart ∧
    items.length = s.size

theorem shared_empty (old new : List α) : Shared old new ⟨0, 0, 0⟩ :=
  ⟨[], [], [], old, new, rfl, rfl, rfl, rfl, rfl⟩

variable [BEq α] [LawfulBEq α] {usable : α → Bool} {old new : List α}

/-- The run that ends at a place of both lists is a shared stretch. -/
theorem shared_agreement (usable : α → Bool) (before back olds ys : List α) :
    Shared (before.reverse ++ olds) (back.reverse ++ ys)
      ⟨before.length - agreement usable before back, back.length - agreement usable before back,
        agreement usable before back⟩ := by
  obtain ⟨shared, xs', ys', hxs, hys, hlen⟩ := exists_agreement usable before back
  have hold := congrArg List.length hxs
  have hnew := congrArg List.length hys
  rw [List.length_append] at hold hnew
  refine ⟨xs'.reverse, ys'.reverse, shared.reverse, olds, ys, ?_, ?_, ?_, ?_, ?_⟩
  · rw [← List.reverse_append, ← hxs]
  · rw [← List.reverse_append, ← hys]
  · rw [List.length_reverse, ← hlen]
    dsimp only
    omega
  · rw [List.length_reverse, ← hlen]
    dsimp only
    omega
  · rw [List.length_reverse, hlen]

theorem shared_longer {x : α} {before olds ys : List α} (back : List α) (best : Stretch)
    (h : Shared ((x :: before).reverse ++ olds) (back.reverse ++ ys) best) :
    Shared ((x :: before).reverse ++ olds) (back.reverse ++ ys)
      (longer before.length back.length (rows usable (x :: before) back ys) best) := by
  induction ys generalizing back best with
  | nil => exact h
  | cons y ys ih =>
    have hsplit : back.reverse ++ y :: ys = (y :: back).reverse ++ ys := by simp
    rw [hsplit] at h ⊢
    rw [rows, longer]
    apply ih (y :: back)
    split
    · exact shared_agreement usable (x :: before) (y :: back) olds ys
    · exact h

/-- The search finds a shared stretch. -/
theorem shared_longestFrom (before olds : List α) {best : Stretch}
    (h : Shared (before.reverse ++ olds) new best) :
    Shared (before.reverse ++ olds) new
      (longestFrom usable new before.length (rows usable before [] new) best olds) := by
  induction olds generalizing before best with
  | nil => exact h
  | cons x olds ih =>
    have hsplit : before.reverse ++ x :: olds = (x :: before).reverse ++ olds := by simp
    rw [hsplit] at h ⊢
    rw [longestFrom, runLengths_rows]
    exact ih (x :: before) (shared_longer [] best h)

/-- Extending a shared stretch leaves it shared. -/
theorem Shared.extend {s : Stretch} (h : Shared old new s) : Shared old new (extend old new s) := by
  obtain ⟨before, before', items, after, after', rfl, rfl, hold, hnew, hsize⟩ := h
  obtain ⟨left, xs, xs', hxs, hxs', hleft⟩ :=
    exists_agreement (fun _ => true) before.reverse before'.reverse
  obtain ⟨right, ys, ys', rfl, rfl, hright⟩ := exists_agreement (fun _ => true) after after'
  obtain rfl : before = xs.reverse ++ left.reverse := by
    rw [← List.reverse_append, ← hxs, List.reverse_reverse]
  obtain rfl : before' = xs'.reverse ++ left.reverse := by
    rw [← List.reverse_append, ← hxs', List.reverse_reverse]
  -- What the two lists share on both sides of the stretch joins it.
  have hback : sharedStart
      (List.take s.oldStart (xs.reverse ++ left.reverse ++ items ++ (right ++ ys))).reverse
      (List.take s.newStart (xs'.reverse ++ left.reverse ++ items ++ (right ++ ys'))).reverse =
        left.length := by
    rw [sharedStart_eq, ← hold, ← hnew, List.append_assoc, List.take_left, List.append_assoc,
      List.take_left, hleft]
  have hahead : sharedStart
      (List.drop (s.oldStart + s.size) (xs.reverse ++ left.reverse ++ items ++ (right ++ ys)))
      (List.drop (s.newStart + s.size) (xs'.reverse ++ left.reverse ++ items ++ (right ++ ys'))) =
        right.length := by
    rw [sharedStart_eq, ← hold, ← hnew, ← hsize, ← List.length_append, List.drop_left,
      ← List.length_append, List.drop_left, hright]
  rw [List.length_append, List.length_reverse, List.length_reverse] at hold hnew
  refine ⟨xs.reverse, xs'.reverse, left.reverse ++ items ++ right, ys, ys', ?_, ?_, ?_, ?_, ?_⟩
  · simp
  · simp
  · rw [Diff.extend, hback, List.length_reverse]
    dsimp only
    omega
  · rw [Diff.extend, hback, List.length_reverse]
    dsimp only
    omega
  · rw [Diff.extend, hback, hahead]
    simp only [List.length_append, List.length_reverse, hsize]

theorem shared_longest (usable : α → Bool) (old new : List α) :
    Shared old new (longest usable old new) := by
  have hfound : Shared old new (longestFrom usable new 0 (rows usable [] [] new) ⟨0, 0, 0⟩ old) :=
    shared_longestFrom [] old (shared_empty old new)
  rw [rows_nil] at hfound
  exact hfound.extend

end Stretches

section Parts

theorem flatMap_changed (old new : List α) :
    (changed old new).flatMap Chunk.old = old ∧ (changed old new).flatMap Chunk.new = new := by
  rw [changed]
  split
  · rename_i hempty
    simp only [Bool.and_eq_true, List.isEmpty_iff] at hempty
    simp [hempty]
  · simp [Chunk.old, Chunk.new]

theorem flatMap_joinKept (chunks : List (Chunk α)) :
    (joinKept chunks).flatMap Chunk.old = chunks.flatMap Chunk.old ∧
      (joinKept chunks).flatMap Chunk.new = chunks.flatMap Chunk.new := by
  induction chunks with
  | nil => exact ⟨rfl, rfl⟩
  | cons chunk rest ih =>
    cases chunk with
    | change old new =>
      rw [joinKept]
      simp [ih]
    | keep items =>
      rw [joinKept, List.flatMap_cons, List.flatMap_cons, ← ih.1, ← ih.2]
      split
      · rename_i hjoined
        simp [hjoined, Chunk.old, Chunk.new]
      · simp

variable [BEq α] [LawfulBEq α]

/-- The parts, put together, are the two lists. -/
theorem flatMap_parts (usable : α → Bool) (fuel : Nat) (old new : List α) :
    (parts usable fuel old new).flatMap Chunk.old = old ∧
      (parts usable fuel old new).flatMap Chunk.new = new := by
  induction fuel generalizing old new with
  | zero => exact flatMap_changed old new
  | succ fuel ih =>
    rw [parts]
    split
    · exact flatMap_changed old new
    · obtain ⟨before, before', items, after, after', hold, hnew, hstart, hstart', hsize⟩ :=
        shared_longest usable old new
      generalize longest usable old new = s at hstart hstart' hsize ⊢
      obtain ⟨hbefore, hbefore'⟩ := ih before before'
      obtain ⟨hafter, hafter'⟩ := ih after after'
      have htake : old.take s.oldStart = before ∧ new.take s.newStart = before' := by
        rw [hold, hnew, ← hstart, ← hstart', List.append_assoc, List.append_assoc, List.take_left,
          List.take_left]
        exact ⟨rfl, rfl⟩
      have hitems : (old.drop s.oldStart).take s.size = items := by
        rw [hold, ← hstart, ← hsize, List.append_assoc, List.drop_left, List.take_left]
      have hdrop : old.drop (s.oldStart + s.size) = after ∧
          new.drop (s.newStart + s.size) = after' := by
        rw [hold, hnew, ← hstart, ← hstart', ← hsize, ← List.length_append, ← List.length_append,
          List.drop_left, List.drop_left]
        exact ⟨rfl, rfl⟩
      rw [htake.1, htake.2, hitems, hdrop.1, hdrop.2]
      simp only [List.flatMap_append, List.flatMap_cons, hbefore, hbefore', hafter, hafter',
        Chunk.old, Chunk.new]
      rw [hold, hnew, List.append_assoc, List.append_assoc]
      exact ⟨rfl, rfl⟩

/-- An alignment is one of the two lists: read on its old side it is the old list, and on its new
side the new list. -/
theorem flatMap_align (old new : List α) :
    (align old new).flatMap Chunk.old = old ∧ (align old new).flatMap Chunk.new = new := by
  rw [align, (flatMap_joinKept _).1, (flatMap_joinKept _).2]
  exact flatMap_parts _ _ old new

end Parts

section Self

variable [BEq α] [LawfulBEq α] {usable : α → Bool}

/-- What the search knows of the best stretch, when a list is compared with itself and the items of
`before` were passed: it starts at one place in both lists, and no run of usable items that ends in
`before` is longer. -/
structure Diagonal (usable : α → Bool) (before : List α) (best : Stretch) : Prop where
  same : best.oldStart = best.newStart
  longest : ∀ passed, passed <:+ before → agreement usable passed passed ≤ best.size

/-- In the row of `x` the best stretch can only be replaced by the run that ends at `x` itself. -/
theorem diagonal_longer {x : α} {before olds ys : List α} (back : List α) {best : Stretch}
    (hlists : (x :: before).reverse ++ olds = back.reverse ++ ys)
    (h : Diagonal usable before best)
    (hpassed : before.length < back.length →
      agreement usable (x :: before) (x :: before) ≤ best.size) :
    Diagonal usable (x :: before)
      (longer before.length back.length (rows usable (x :: before) back ys) best) := by
  induction ys generalizing back best with
  | nil =>
    have hlen := congrArg List.length hlists
    simp only [List.length_append, List.length_reverse, List.length_cons, List.length_nil] at hlen
    refine ⟨h.same, ?_⟩
    intro passed hsuffix
    rcases List.suffix_cons_iff.mp hsuffix with rfl | hsuffix
    · exact hpassed (by omega)
    · exact h.longest passed hsuffix
  | cons y ys ih =>
    have hnext : (x :: before).reverse ++ olds = (y :: back).reverse ++ ys := by
      rw [hlists]
      simp
    rw [rows, longer]
    rcases Nat.lt_trichotomy back.length before.length with hlt | heq | hgt
    · -- The run ends before `x` in the new list, so it is no longer than one that was passed.
      have hsuffix : y :: back <:+ before := by
        rw [← List.reverse_prefix]
        have hfull : (y :: back).reverse <+: before.reverse ++ (x :: olds) := by
          refine ⟨ys, ?_⟩
          rw [← hnext]
          simp
        apply List.prefix_of_prefix_length_le hfull (List.prefix_append _ _)
        simp only [List.length_reverse, List.length_cons]
        omega
      have hshort : ¬best.size < agreement usable (x :: before) (y :: back) := by
        have hpassed' := h.longest (y :: back) hsuffix
        have hle := agreement_le_right usable (x :: before) (y :: back)
        omega
      rw [if_neg hshort]
      apply ih (y :: back) hnext h
      intro hlen
      simp only [List.length_cons] at hlen
      omega
    · -- The run ends at `x` in both lists.
      have hsame : y :: back = x :: before := by
        have hleft : (y :: back).reverse = (x :: before).reverse := by
          apply (List.append_inj hnext.symm _).1
          simp [heq]
        exact List.reverse_injective hleft
      rw [hsame]
      obtain ⟨-, rfl⟩ := List.cons.inj hsame
      apply ih (x :: back)
      · rw [hnext, hsame]
      · split
        · rename_i hlonger
          refine ⟨rfl, ?_⟩
          intro passed hsuffix
          exact Nat.le_of_lt (Nat.lt_of_le_of_lt (h.longest passed hsuffix) hlonger)
        · exact h
      · intro _
        split
        · exact Nat.le_refl _
        · rename_i hshort
          omega
    · -- The run that ends at `x` in both lists was seen already, and is at least as long.
      have hshort : ¬best.size < agreement usable (x :: before) (y :: back) := by
        have hseen := hpassed hgt
        have hle := agreement_le_left usable (x :: before) (y :: back)
        omega
      rw [if_neg hshort]
      exact ih (y :: back) hnext h fun _ => hpassed hgt

theorem diagonal_longestFrom (before olds : List α) {xs : List α} {best : Stretch}
    (hxs : xs = before.reverse ++ olds) (h : Diagonal usable before best) :
    Diagonal usable xs.reverse
      (longestFrom usable xs before.length (rows usable before [] xs) best olds) := by
  induction olds generalizing before best with
  | nil =>
    rw [hxs, List.append_nil, List.reverse_reverse]
    exact h
  | cons x olds ih =>
    have hlists : (x :: before).reverse ++ olds = xs := by
      rw [hxs]
      simp
    rw [longestFrom, runLengths_rows]
    apply ih (x :: before) hlists.symm
    exact diagonal_longer [] hlists h (by simp)

/-- The longest stretch that a list shares with itself is the whole list. -/
theorem longest_self (usable : α → Bool) (xs : List α) :
    longest usable xs xs = ⟨0, 0, xs.length⟩ := by
  have hstart : Diagonal usable [] ⟨0, 0, 0⟩ := by
    refine ⟨rfl, ?_⟩
    intro passed hsuffix
    rw [List.suffix_nil.mp hsuffix]
    exact Nat.le_refl _
  have hdiagonal : Diagonal usable xs.reverse
      (longestFrom usable xs 0 (rows usable [] [] xs) ⟨0, 0, 0⟩ xs) :=
    diagonal_longestFrom [] xs rfl hstart
  have hshared : Shared xs xs (longestFrom usable xs 0 (rows usable [] [] xs) ⟨0, 0, 0⟩ xs) :=
    shared_longestFrom [] xs (shared_empty xs xs)
  rw [rows_nil] at hdiagonal hshared
  have hsame := hdiagonal.same
  rw [longest]
  generalize longestFrom usable xs 0 (List.replicate xs.length 0) ⟨0, 0, 0⟩ xs = s at hsame hshared
  obtain ⟨before, -, items, after, -, hxs, -, hbefore, -, hitems⟩ := hshared
  have hlen : s.oldStart + s.size + after.length = xs.length := by
    rw [hxs, ← hbefore, ← hitems, List.length_append, List.length_append]
  rw [extend, ← hsame, sharedStart_self, sharedStart_self, List.length_reverse, List.length_take,
    List.length_drop]
  congr 1 <;> omega

theorem parts_nil (usable : α → Bool) (fuel : Nat) : parts usable fuel [] [] = [] := by
  cases fuel with
  | zero => rfl
  | succ fuel =>
    rw [parts]
    simp [longest_self, changed]

/-- A list aligned with itself is one part, or none if it is empty. -/
theorem align_self (xs : List α) : align xs xs = if xs.isEmpty then [] else [.keep xs] := by
  cases xs with
  | nil =>
    rw [align, parts_nil]
    rfl
  | cons x xs =>
    rw [align, parts, longest_self]
    simp [parts_nil, joinKept]

end Self

end Pruner.Diff
