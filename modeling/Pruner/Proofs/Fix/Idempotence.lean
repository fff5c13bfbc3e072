import Pruner.Proofs.Fix.Run

/-!
Running twice. A run ends at a source that a round does not change, so a second run has nothing to
do as long as its rounds are the same. They can differ: whether variables are left alone depends on
the word `nonlocal` in the source that a run starts with, and a run may remove that word or put it
together.
-/
namespace Pruner.Fix

open Pruner.Text

variable {options : Options} {check : Text → List Diagnostic} {rounds : Nat} {source result : Text}

/-- Sources that agree on the word `nonlocal` are fixed in the same way. -/
theorem effective_congr (h : options.removeUnusedVariables = true →
      occursIn "nonlocal".toList source = occursIn "nonlocal".toList result) :
    effective options result = effective options source := by
  cases hvariables : options.removeUnusedVariables with
  | false =>
    rw [effective_eq_of_not_variables hvariables, effective_eq_of_not_variables hvariables]
  | true => rw [effective, effective, h hvariables]

/-- A source that a round does not change is its own result, after one round. -/
theorem fixCode_of_round_eq
    (h : round (effective options source) (check source) source = .ok source) (more : Nat) :
    (fixCode options (fun _ => check) (more + 1) source).outcome = .done source := by
  rw [fixCode]
  split
  · rfl
  · rw [outcome_loop h, if_pos rfl]

/-- The result of a run is not changed by a second run with the same options and the same check,
unless variables are to be removed and one of the two sources mentions `nonlocal` and the other
does not. -/
theorem fixCode_idempotent
    (hsame : options.removeUnusedVariables = true →
      occursIn "nonlocal".toList source = occursIn "nonlocal".toList result)
    (h : (fixCode options (fun _ => check) rounds source).outcome = .done result) (more : Nat) :
    (fixCode options (fun _ => check) (more + 1) result).outcome = .done result := by
  by_cases hempty : source = []
  · rw [hempty] at h
    rw [← Outcome.done.inj h]
    rfl
  · rw [fixCode, if_neg (by simpa using hempty)] at h
    obtain ⟨i, -, hround⟩ := exists_last_pass h
    apply fixCode_of_round_eq
    rwa [effective_congr hsame]

/-- Two rounds remove an import and then a variable, and a second run finds nothing to do. -/
theorem fixCode_idempotent_import_and_variable :
    (fixCode { removeAllUnusedImports := true, removeUnusedVariables := true }
      (fun _ t => if occursIn "import".toList t then [⟨1, .unusedImport "os".toList⟩]
        else if occursIn "x".toList t then [⟨2, .unusedVariable "x".toList⟩] else [])
      3 "import os\ndef f():\n    x = 1\n".toList).outcome = .done "def f():\n    pass\n".toList ∧
    ∀ more, (fixCode { removeAllUnusedImports := true, removeUnusedVariables := true }
      (fun _ t => if occursIn "import".toList t then [⟨1, .unusedImport "os".toList⟩]
        else if occursIn "x".toList t then [⟨2, .unusedVariable "x".toList⟩] else [])
      (more + 1) "def f():\n    pass\n".toList).outcome = .done "def f():\n    pass\n".toList := by
  refine (and_iff_left_of_imp fun hdone => fixCode_idempotent (fun _ => ?_) hdone).mpr ?_
  · decide
  · decide +kernel

/-- A second run can go further than the first. In the first of these sources `nonlocal` goes with
an import, and then the variable `x` goes as well; in the second the word comes about when the
module is taken off a name, and then the star, on a line with an unused variable, is expanded. -/
theorem second_run_differs :
    (let options : Options := { removeAllUnusedImports := true, removeUnusedVariables := true }
    let check (t : Text) : List Diagnostic :=
      if occursIn "import".toList t then [⟨1, .unusedImport "os.nonlocal_".toList⟩]
      else if occursIn "x".toList t then [⟨2, .unusedVariable "x".toList⟩] else []
    let fixed (source : String) : Outcome := (fixCode options (fun _ => check) 3 source.toList).outcome
    fixed "import os.nonlocal_\ndef f():\n    x = 1\n" = .done "def f():\n    x = 1\n".toList ∧
      fixed "def f():\n    x = 1\n" = .done "def f():\n    pass\n".toList) ∧
    (let options : Options :=
      { removeAllUnusedImports := true, removeUnusedVariables := true, expandStarImports := true }
    let check (t : Text) : List Diagnostic :=
      if occursIn ",".toList t then [⟨1, .unusedImport "a.b".toList⟩]
      else [⟨2, .unusedVariable "m".toList⟩, ⟨2, .starImport "m".toList⟩,
        ⟨2, .starUsage "p".toList "m".toList⟩]
    let fixed (source : String) : Outcome := (fixCode options (fun _ => check) 3 source.toList).outcome
    fixed "from a import nona.local, b\nfrom m import *\n" =
        .done "from a import nonlocal\nfrom m import *\n".toList ∧
      fixed "from a import nonlocal\nfrom m import *\n" =
        .done "from a import nonlocal\nfrom m import p\n".toList) := by
  decide +kernel

end Pruner.Fix
