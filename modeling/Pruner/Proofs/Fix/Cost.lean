import Pruner.Fix
import Pruner.Proofs.Rule.Import
import Mathlib.Algebra.Order.Monoid.Prod
import Mathlib.Algebra.Order.Group.Nat

/-!
The cost of a source, which every edit of a line lowers.

The edits pull in different directions: expanding a star adds commas and text, putting imports on
lines of their own adds lines, and sorting the names of an import may add blanks. What each of them
uses up is counted, and the counts are compared lexicographically: stars, equals signs, commas,
visible characters, untidy import lines, and length.
-/
namespace Pruner.Fix

open Pruner.Text Pruner.Line Pruner.Import

/-- Characters that are not blank. -/
def visible (t : Text) : Nat :=
  t.countP (!isBlank ·)

/-- An import line with its names sorted and evenly spaced. -/
def tidy (line : Text) : Text :=
  match cutAtWord? importWord false line with
  | none => line
  | some (before, after) => withNames line before (sort ((commaPieces (trim after)).map trim))

/-- Lines that sorting and spacing would change. -/
def untidy (t : Text) : Nat :=
  (lines t).countP fun l => tidy l != l

/-- What expanding a star and dropping the target of an assignment use up. -/
def outerCost (t : Text) : ℕ ×ₗ ℕ :=
  toLex (t.countP (· == '*'), t.countP (· == '='))

/-- What the other edits use up. -/
def innerCost (t : Text) : ℕ ×ₗ ℕ ×ₗ ℕ ×ₗ ℕ :=
  toLex (t.countP (· == ','), toLex (visible t, toLex (untidy t, t.length)))

def cost (t : Text) : (ℕ ×ₗ ℕ) ×ₗ (ℕ ×ₗ ℕ ×ₗ ℕ ×ₗ ℕ) :=
  toLex (outerCost t, innerCost t)

theorem outerCost_append (a b : Text) : outerCost (a ++ b) = outerCost a + outerCost b := by
  simp only [outerCost, List.countP_append]
  rfl

/-- The inner cost can be added up over texts that do not share a line. -/
theorem innerCost_append {a : Text} (ha : a = [] ∨ EndsLine a) (b : Text) :
    innerCost (a ++ b) = innerCost a + innerCost b := by
  simp only [innerCost, visible, untidy, lines_append ha, List.countP_append, List.length_append]
  rfl

theorem innerCost_lt_iff {a b : Text} :
    innerCost a < innerCost b ↔
      a.countP (· == ',') < b.countP (· == ',') ∨
      a.countP (· == ',') = b.countP (· == ',') ∧ (visible a < visible b ∨
        visible a = visible b ∧ (untidy a < untidy b ∨
          untidy a = untidy b ∧ a.length < b.length)) := by
  simp only [innerCost, Prod.Lex.toLex_lt_toLex]

/-- One text can take the place of another: stars or equals signs are used up, or their number
stays, no line feed gets lost, and the text is the same or costs less. -/
def Settles (a b : Text) : Prop :=
  outerCost b < outerCost a ∨
    outerCost b = outerCost a ∧ (EndsLine a → b = [] ∨ EndsLine b) ∧
      (b = a ∨ innerCost b < innerCost a)

theorem Settles.refl (a : Text) : Settles a a :=
  Or.inr ⟨rfl, Or.inr, Or.inl rfl⟩

theorem Settles.outerCost_le {a b : Text} (h : Settles a b) : outerCost b ≤ outerCost a := by
  rcases h with h | h
  · exact h.le
  · exact h.1.le

theorem Settles.eq_or_cost_lt {a b : Text} (h : Settles a b) : b = a ∨ cost b < cost a := by
  simp only [cost, Prod.Lex.toLex_lt_toLex]
  rcases h with h | ⟨ho, -, rfl | hi⟩
  · exact Or.inr (Or.inl h)
  · exact Or.inl rfl
  · exact Or.inr (Or.inr ⟨ho, hi⟩)

theorem settles_of_lt {a b : Text} (hs : b.countP (· == '*') ≤ a.countP (· == '*'))
    (he : b.countP (· == '*') < a.countP (· == '*') ∨ b.countP (· == '=') < a.countP (· == '=')) :
    Settles a b := by
  refine Or.inl ?_
  simp only [outerCost, Prod.Lex.toLex_lt_toLex]
  omega

theorem settles_of_le {a b : Text} (hs : b.countP (· == '*') ≤ a.countP (· == '*'))
    (he : b.countP (· == '=') ≤ a.countP (· == '='))
    (hend : EndsLine a → b = [] ∨ EndsLine b) (hi : innerCost b < innerCost a) : Settles a b := by
  by_cases heq : outerCost b = outerCost a
  · exact Or.inr ⟨heq, hend, Or.inr hi⟩
  · refine Or.inl (lt_of_le_of_ne ?_ heq)
    simp only [outerCost, Prod.Lex.toLex_le_toLex]
    omega

theorem not_innerCost_lt_nil (b : Text) : ¬innerCost b < innerCost [] := by
  rw [innerCost_lt_iff]
  simp [visible, untidy]

theorem settles_nil {line : Text} (h : line ≠ []) : Settles line [] := by
  apply settles_of_le (by simp) (by simp) (fun _ => Or.inl rfl)
  have hpos := List.length_pos_of_ne_nil h
  rw [innerCost_lt_iff]
  simp only [visible, untidy, lines_nil, List.countP_nil, List.length_nil]
  omega

/-- Neighbouring edits do not disturb each other. -/
theorem Settles.append {a b c d : Text} (hab : Settles a b) (hcd : Settles c d)
    (hbound : EndsLine a ∨ c = [] ∧ d = []) : Settles (a ++ c) (b ++ d) := by
  rcases hbound with ha | ⟨rfl, rfl⟩
  · rcases hab with hab | ⟨hob, hend, hib⟩
    · refine Or.inl ?_
      rw [outerCost_append, outerCost_append]
      exact add_lt_add_of_lt_of_le hab hcd.outerCost_le
    · have hb := hend ha
      rcases hcd with hcd | ⟨hod, hend', hid⟩
      · refine Or.inl ?_
        rw [outerCost_append, outerCost_append, hob]
        exact add_lt_add_right hcd _
      · refine Or.inr ⟨by rw [outerCost_append, outerCost_append, hob, hod], ?_, ?_⟩
        · intro hac
          by_cases hd : d = []
          · simpa [hd] using hb
          · have hc : c ≠ [] := by
              rintro rfl
              exact hid.elim hd (not_innerCost_lt_nil d)
            rw [EndsLine, List.getLast?_append_of_ne_nil _ hc] at hac
            refine Or.inr ?_
            rw [EndsLine, List.getLast?_append_of_ne_nil _ hd]
            exact (hend' hac).resolve_left hd
        · rw [innerCost_append hb, innerCost_append (Or.inr ha)]
          rcases hib with rfl | hib
          · rcases hid with rfl | hid
            · exact Or.inl rfl
            · exact Or.inr (add_lt_add_right hid _)
          · rcases hid with rfl | hid
            · exact Or.inr (add_lt_add_left hib _)
            · exact Or.inr (add_lt_add hib hid)
  · simpa using hab

/-- Edits of single lines settle the whole text. -/
theorem settles_flatten {ls ps : List Text} (hl : Lined ls) (h : List.Forall₂ Settles ls ps) :
    Settles ls.flatten ps.flatten := by
  induction h with
  | nil => exact Settles.refl []
  | @cons l p ls ps hlp hrest ih =>
    rw [List.flatten_cons, List.flatten_cons]
    refine hlp.append (ih hl.tail) ?_
    cases hrest with
    | nil => exact Or.inr ⟨rfl, rfl⟩
    | cons _ _ => exact Or.inl hl.head_ended

end Pruner.Fix
