import Pruner.Proofs.Fix.Cost
import Pruner.Proofs.Fix.Round
import Pruner.Proofs.Rule.Variable
import Pruner.Proofs.Rule.StarImport

namespace Pruner.Fix

open Pruner.Text Pruner.Line Pruner.Import Pruner.Variable Pruner.StarImport

theorem visible_passFor (line : Text) : visible (passFor line) = 4 := by
  rw [visible, countP_passFor (by simp)]
  decide

/-- A `pass` is cheaper than any line with more than four visible characters. -/
theorem settles_passFor {line : Text} (h : 4 < visible line) : Settles line (passFor line) := by
  have hstar : (passFor line).countP (· == '*') = 0 :=
    countP_passFor (beq_eq_false_of_isBlank (by decide)) line
  have hequals : (passFor line).countP (· == '=') = 0 :=
    countP_passFor (beq_eq_false_of_isBlank (by decide)) line
  have hcomma : (passFor line).countP (· == ',') = 0 :=
    countP_passFor (beq_eq_false_of_isBlank (by decide)) line
  apply settles_of_le (by omega) (by omega)
  · intro hend
    exact Or.inr (hend.append_ending _)
  · rw [innerCost_lt_iff, hcomma, visible_passFor]
    omega

/-- An assignment loses its only equals sign. -/
theorem settles_assignment {line rest piece : Text} (h : IsAssignment line rest)
    (hpiece : piece = passFor line ∨ piece = indentation line ++ trimLeft rest) :
    Settles line piece := by
  obtain ⟨hone, hzero⟩ := equals_assignment h
  rcases hpiece with rfl | rfl
  · have hstar : (passFor line).countP (· == '*') = 0 :=
      countP_passFor (beq_eq_false_of_isBlank (by decide)) line
    have hequals : (passFor line).countP (· == '=') = 0 :=
      countP_passFor (beq_eq_false_of_isBlank (by decide)) line
    exact settles_of_lt (by omega) (Or.inr (by omega))
  · exact settles_of_lt (countP_value_le h (beq_eq_false_of_isBlank (by decide)))
      (Or.inr (by omega))

/-- An `except` clause loses visible characters. -/
theorem settles_except {line piece : Text} (h : dropExceptName? line = some piece) :
    Settles line piece := by
  obtain ⟨front, name, newline, rfl, rfl⟩ := dropExceptName?_eq_some h
  apply settles_of_le
  · simp only [List.countP_append]
    omega
  · simp only [List.countP_append]
    omega
  · intro hend
    refine Or.inr ?_
    by_cases hnew : newline = []
    · rw [hnew, List.append_nil, EndsLine, List.getLast?_append_of_ne_nil _ (by simp)] at hend
      simp at hend
    · rw [EndsLine, List.getLast?_append_of_ne_nil _ hnew] at hend ⊢
      exact hend
  · have has : visible " as ".toList = 2 := by decide
    have hcomma : " as ".toList.countP (· == ',') = 0 := by decide
    rw [innerCost_lt_iff]
    simp only [visible, List.countP_append] at has ⊢
    rw [has, hcomma]
    omega

theorem settles_variable {line previous piece : Text}
    (h : Variable.filterUnused line previous = .ok piece) : Settles line piece := by
  rcases filterUnused_cases h with hexcept | ⟨rest, hassign, -, hpiece⟩ | ⟨-, rfl⟩
  · exact settles_except hexcept
  · exact settles_assignment hassign hpiece
  · exact Settles.refl piece

/-- The first of the marked lines goes, the others stay. -/
theorem settles_filterMarked {line : Text} (hl : line ≠ []) (number : Int) (marked : List Int) :
    Settles line (DuplicateKey.filterMarked line number marked) := by
  rw [DuplicateKey.filterMarked]
  split
  · exact settles_nil hl
  · exact Settles.refl line

/-- Expanding uses up the stars of a line, if the names have none themselves. -/
theorem settles_expand {line piece : Text} {names : List Text}
    (hnames : ∀ name ∈ names, '*' ∉ name ∧ '\\' ∉ name)
    (h : StarImport.expand line names = .ok piece) : Settles line piece := by
  rw [expand_of_plain (fun name hname => (hnames name hname).2) h]
  by_cases hstar : '*' ∈ line
  · have hpos : 0 < line.count '*' := List.count_pos_iff.mpr hstar
    have hzero : (replaceStars (join ", ".toList (sortDistinct names)) line).count '*' = 0 := by
      rw [count_replaceStars, List.count_eq_zero_of_not_mem
        (not_mem_names (by decide) fun name hname => (hnames name hname).1), Nat.mul_zero]
    rw [List.count] at hpos hzero
    exact settles_of_lt (by omega) (Or.inl (by omega))
  · rw [replaceStars_eq_self (Or.inl hstar)]
    exact Settles.refl line

end Pruner.Fix
