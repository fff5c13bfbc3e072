import Pruner.Proofs.Text.Lines
import Mathlib.Algebra.BigOperators.Group.List.Basic
import Mathlib.Algebra.FreeMonoid.Basic
import Mathlib.Algebra.Order.Group.Multiset

/-!
What the lines of a text weigh together, in any monoid. The list, or the multiset, of all that is
read off the single lines is such a sum.

A piece stands for a line if it can take its place without a change of the sum. Pieces for all lines
of a text then give a text with the same sum.
-/
namespace Pruner.Text

section

variable {M : Type} [AddMonoid M]

/-- The sum of the weights of the lines. -/
def lineSum (weight : Text → M) (t : Text) : M :=
  ((lines t).map weight).sum

variable {weight : Text → M}

@[simp] theorem lineSum_nil : lineSum weight [] = 0 := rfl

theorem IsLine.lineSum_eq {l : Text} (h : IsLine l) : lineSum weight l = weight l := by
  rw [lineSum, h.lines_eq, List.map_singleton, List.sum_singleton]

theorem lineSum_flatten_of_lined {ls : List Text} (h : Lined ls) :
    lineSum weight ls.flatten = (ls.map weight).sum := by
  rw [lineSum, lines_flatten_of_lined h]

theorem lineSum_append {a : Text} (ha : a = [] ∨ EndsLine a) (b : Text) :
    lineSum weight (a ++ b) = lineSum weight a + lineSum weight b := by
  rw [lineSum, lines_append ha, List.map_append, List.sum_append]
  rfl

theorem lineSum_eq_zero {t : Text} (h : ∀ l ∈ lines t, weight l = 0) : lineSum weight t = 0 := by
  apply List.sum_eq_zero
  intro x hx
  obtain ⟨l, hl, rfl⟩ := List.mem_map.mp hx
  exact h l hl

/-- A piece can take the place of a line: whatever follows, it adds the weight of the line. Nothing
follows a line without a line feed. -/
def StandsFor (weight : Text → M) (line piece : Text) : Prop :=
  ∀ rest, EndsLine line ∨ rest = [] →
    lineSum weight (piece ++ rest) = weight line + lineSum weight rest

/-- A piece of the same weight stands for a line if it keeps the line feed. -/
theorem standsFor_of_ends {line piece : Text} (hend : EndsLine line → piece = [] ∨ EndsLine piece)
    (hsum : lineSum weight piece = weight line) : StandsFor weight line piece := by
  rintro rest (hline | rfl)
  · rw [lineSum_append (hend hline), hsum]
  · rw [List.append_nil, hsum, lineSum_nil, add_zero]

theorem StandsFor.refl {line : Text} (h : IsLine line) : StandsFor weight line line :=
  standsFor_of_ends Or.inr h.lineSum_eq

/-- If every piece stands for its line, the pieces together weigh as much as the lines. -/
theorem lineSum_flatten {ls ps : List Text} (hlined : Lined ls)
    (h : List.Forall₂ (StandsFor weight) ls ps) :
    lineSum weight ps.flatten = (ls.map weight).sum := by
  induction h with
  | nil => rfl
  | @cons line piece ls ps hpiece hrest ih =>
    have hbound : EndsLine line ∨ ps.flatten = [] := by
      cases hrest with
      | nil => exact Or.inr rfl
      | cons _ _ => exact Or.inl hlined.head_ended
    rw [List.flatten_cons, hpiece _ hbound, ih hlined.tail, List.map_cons, List.sum_cons]

end

section

variable {α : Type} {p : Text → Bool} {f : Text → α}

/-- What is read off a line of some kind; other lines give nothing. -/
def pick (p : Text → Bool) (f : Text → α) (l : Text) : FreeAddMonoid α :=
  if p l then .of (f l) else 0

theorem pick_of_not {l : Text} (h : p l = false) : pick p f l = 0 := by
  rw [pick, h]
  rfl

/-- What is read off the lines of some kind, one after another, is their sum in the free monoid. -/
theorem lineSum_pick (t : Text) :
    lineSum (pick p f) t = .ofList (((lines t).filter p).map f) := by
  rw [lineSum]
  induction lines t with
  | nil => rfl
  | cons l ls ih =>
    rw [List.map_cons, List.sum_cons, ih, List.filter_cons, pick]
    split
    · rw [List.map_cons, FreeAddMonoid.ofList_cons]
    · rw [zero_add]

theorem map_filter_lines_eq {t u : Text} (h : lineSum (pick p f) t = lineSum (pick p f) u) :
    ((lines t).filter p).map f = ((lines u).filter p).map f := by
  rw [lineSum_pick, lineSum_pick] at h
  exact FreeAddMonoid.ofList.injective h

theorem filter_lines_eq {t u : Text} (h : lineSum (pick p id) t = lineSum (pick p id) u) :
    (lines t).filter p = (lines u).filter p := by
  have hmap := map_filter_lines_eq h
  rwa [List.map_id, List.map_id] at hmap

end

/-- What is read off the lines, in whatever order, is their sum as multisets. -/
theorem lineSum_coe {α : Type} (read : Text → List α) (t : Text) :
    lineSum (fun l => (read l : Multiset α)) t = ((lines t).flatMap read : Multiset α) := by
  rw [lineSum]
  induction lines t with
  | nil => rfl
  | cons l ls ih => rw [List.map_cons, List.sum_cons, ih, List.flatMap_cons, Multiset.coe_add]

end Pruner.Text
