import Pruner.Proofs.Rule.Variable
import Pruner.Proofs.Rule.StarImport
import Pruner.Proofs.Token.Reach

namespace Pruner.Fix

open Pruner.Text Pruner.Line Pruner.Token

/-- The rules for reported lines. -/
inductive Rule
  | imports
  | variables
  | keys
  | stars
  deriving DecidableEq, Repr

/-- The rule that a line falls under: the first of those it is marked for. -/
def ruleFor? (m : Marks) (number : Nat) : Option Rule :=
  if m.imports.contains number then some .imports
  else if m.assignments.contains number then some .variables
  else if m.keys.contains number then some .keys
  else if m.stars.contains number then some .stars
  else none

/-- The names reported as unused imports on a line. -/
def unusedOn (m : Marks) (number : Nat) : List Text :=
  (m.importNames.filter (·.1 == (number : Int))).map (·.2)

/-- A line with a `#` or without a rule stays, every other line is left to its rule. -/
theorem editLine_eq {options : Options} {m : Marks} {number : Nat} {previous line : Text} :
    editLine options m number previous line =
      if '#' ∈ line then .ok line
      else match ruleFor? m number with
        | some .imports => Import.filterUnused line (unusedOn m number)
            options.removeAllUnusedImports options.allowed previous
        | some .variables => Variable.filterUnused line []
        | some .keys => .ok (DuplicateKey.filterMarked line number m.keys)
        | some .stars => StarImport.expand line m.starNames
        | none => .ok line := by
  rw [editLine]
  simp only [List.contains_iff_mem, ruleFor?]
  split
  · rfl
  · split
    · rfl
    · split
      · rfl
      · split
        · rfl
        · split <;> rfl

/-- After a backslash no import is edited, and elsewhere the line before makes no difference. -/
theorem importFilterUnused_previous (line : Text) (unused : List Text) (removeAll : Bool)
    (allowed : List Text) (previous : Text) :
    Import.filterUnused line unused removeAll allowed previous =
      if isJoined previous then .ok line
      else Import.filterUnused line unused removeAll allowed [] := by
  have hjoined : isPartialImport line previous = (isPartialImport line [] || isJoined previous) := by
    have hnil : isJoined [] = false := rfl
    simp only [isPartialImport, isPartial, hnil, Bool.or_false, Bool.or_assoc]
  rw [Import.filterUnused, hjoined]
  by_cases h : isJoined previous = true
  · rw [h, Bool.or_true, if_pos rfl, if_pos rfl]
  · rw [Bool.not_eq_true] at h
    rw [h, Bool.or_false, Import.filterUnused]
    rfl

/-- The text of a line fits the rule it falls under, whatever the lines before it say, apart from
imports after a backslash. -/
def FitsRule (options : Options) (m : Marks) (number : Nat) (before line : Text) : Prop :=
  match ruleFor? m number with
  | some .imports => isJoined before = false ∧
      Import.filterUnused line (unusedOn m number) options.removeAllUnusedImports options.allowed []
        ≠ .ok line
  | some .variables => Variable.Fits line []
  | some .stars => '*' ∈ line ∧ StarImport.expand ['*'] m.starNames ≠ .ok ['*']
  | some .keys => False
  | none => False

theorem editLine_ne_iff {options : Options} {m : Marks} {number : Nat}
    {before line piece : Text} (h : editLine options m number before line = .ok piece) :
    piece ≠ line ∧ ¬(piece = [] ∧ ruleFor? m number = some .keys) ↔
      '#' ∉ line ∧ FitsRule options m number before line := by
  rw [editLine_eq] at h
  split at h
  · rename_i hhash
    rw [← Except.ok.inj h]
    simp [hhash]
  · rename_i hhash
    rw [and_iff_right hhash, FitsRule]
    split at h
    · rename_i hrule
      rw [importFilterUnused_previous] at h
      simp only [hrule]
      split at h
      · rename_i hjoined
        rw [← Except.ok.inj h]
        simp [hjoined]
      · rename_i hjoined
        simp [hjoined, h]
    · rename_i hrule
      simp only [hrule]
      simpa using Variable.filterUnused_ne_iff h
    · rename_i hrule
      simp only [hrule]
      rw [← Except.ok.inj h, DuplicateKey.filterMarked]
      split <;> simp
    · rename_i hrule
      simp only [hrule]
      simpa using StarImport.expand_ne_iff h
    · rename_i hrule
      rw [← Except.ok.inj h]
      simp [hrule]

/-- A line that starts inside a bracket or after a backslash is edited, other than by being deleted
as a repeated key, exactly if it has no `#` and its own text fits the rule it falls under. The line
before protects it from the rule for imports only, and only if it ends in a backslash. -/
theorem continued_line_edited_iff {options : Options} {ds : List Diagnostic} {source : Text}
    {m : Marks} {ps : List Text} {i : Nat} {line before piece : Text}
    (hm : marks options source ds = .ok m) (h : filterCode options ds source = .ok ps)
    (hline : (lines source)[i]? = some line) (hbefore : ([] :: lines source)[i]? = some before)
    (hpiece : ps[i]? = some piece) (hcontinued : InBracket source i ∨ isJoined before = true) :
    piece ≠ line ∧ ¬(piece = [] ∧ ruleFor? m (i + 1) = some .keys) ↔
      '#' ∉ line ∧ FitsRule options m (i + 1) before line ∧
        (ruleFor? m (i + 1) = some .imports → InBracket source i) := by
  obtain ⟨m', hm', hedit⟩ := filterCode_eq_ok.mp h
  obtain rfl : m = m' := Except.ok.inj (hm.symm.trans hm')
  have hstep := (editLines_eq_ok.mp hedit).2 i line before piece hline hbefore hpiece
  rw [Nat.add_comm] at hstep
  rw [editLine_ne_iff hstep]
  have himports : FitsRule options m (i + 1) before line → ruleFor? m (i + 1) = some .imports →
      InBracket source i := by
    intro hfits hrule
    simp only [FitsRule, hrule] at hfits
    exact hcontinued.resolve_right (by simp [hfits.1])
  tauto

/-- The second target of an assignment that goes on after a backslash is lost, and with it the end
of the statement. -/
theorem continued_assignment_edited :
    filterCode { removeUnusedVariables := true } [⟨3, .unusedVariable "x".toList⟩]
        "def f():\n    y = \\\n        x = 1\n    return y\n".toList =
      .ok (["def f():\n", "    y = \\\n", "        pass\n", "    return y\n"].map String.toList) ∧
    isJoined "    y = \\\n".toList = true ∧
    "        pass\n".toList ≠ "        x = 1\n".toList := by
  have hps := eq_ok_of_toOption (x := filterCode { removeUnusedVariables := true }
      [⟨3, .unusedVariable "x".toList⟩]
      "def f():\n    y = \\\n        x = 1\n    return y\n".toList)
    (a := ["def f():\n", "    y = \\\n", "        pass\n", "    return y\n"].map String.toList)
    (by decide +kernel)
  have hmarks : marks { removeUnusedVariables := true }
      "def f():\n    y = \\\n        x = 1\n    return y\n".toList
      [⟨3, .unusedVariable "x".toList⟩] = .ok ⟨[], [], [], [], [3], []⟩ := rfl
  have hfits : FitsRule { removeUnusedVariables := true } ⟨[], [], [], [], [3], []⟩ 3
      "    y = \\\n".toList "        x = 1\n".toList :=
    Or.inr ⟨by decide +kernel, " 1\n".toList, "        x ".toList, by decide, by decide⟩
  refine ⟨hps, by decide, ?_⟩
  exact ((continued_line_edited_iff hmarks hps (i := 2) rfl rfl rfl (Or.inr (by decide))).mpr
    ⟨by decide, hfits, fun himports => absurd himports (by decide)⟩).1

end Pruner.Fix
