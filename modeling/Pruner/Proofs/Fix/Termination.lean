import Pruner.Proofs.Fix.ImportEdits

namespace Pruner.Fix

open Pruner.Text Pruner.Line Pruner.Import

/-- What is promised of the diagnostics of a source: a reported import that is not part of a longer
one is complete, and the names that come from a star import have neither a star nor a backslash. -/
structure Reliable (source : Text) (ds : List Diagnostic) : Prop where
  imports : ∀ d ∈ ds, ∀ name, d.problem = .unusedImport name →
    ∀ (i : Nat) (line before : Text), d.line = (i : Int) + 1 → (lines source)[i]? = some line →
      ([] :: lines source)[i]? = some before → isPartialImport line before = false →
        IsCompleteImport line
  names : ∀ d ∈ ds, ∀ name sources, d.problem = .starUsage name sources →
    '*' ∉ name ∧ '\\' ∉ name

theorem settles_editLine {options : Options} {m : Marks} {number : Nat}
    {previous line piece : Text} (hl : IsLine line)
    (himport : (number : Int) ∈ m.imports → isPartialImport line previous = false →
      IsCompleteImport line)
    (hnames : ∀ name ∈ m.starNames, '*' ∉ name ∧ '\\' ∉ name)
    (h : editLine options m number previous line = .ok piece) : Settles line piece := by
  rw [editLine] at h
  split at h
  · rw [← Except.ok.inj h]
    exact Settles.refl line
  · split at h
    · rename_i hmarked
      exact settles_filterUnused hl (himport (List.contains_iff_mem.mp hmarked)) h
    · split at h
      · exact settles_variable h
      · split at h
        · rw [← Except.ok.inj h]
          exact settles_filterMarked hl.ne_nil _ _
        · split at h
          · exact settles_expand hnames h
          · rw [← Except.ok.inj h]
            exact Settles.refl line

theorem Reliable.marks {options : Options} {source : Text} {ds : List Diagnostic} {m : Marks}
    (hds : Reliable source ds) (h : marks options source ds = .ok m) :
    (∀ (i : Nat) (line before : Text), (lines source)[i]? = some line →
      ([] :: lines source)[i]? = some before → ((1 + i : Nat) : Int) ∈ m.imports →
        isPartialImport line before = false → IsCompleteImport line) ∧
    ∀ name ∈ m.starNames, '*' ∉ name ∧ '\\' ∉ name := by
  obtain ⟨himports, -, -, hstars, -, -⟩ := marks_eq_ok.mp h
  constructor
  · intro i line before hline hbefore hmarked hwhole
    rw [himports, mem_unusedImportLines] at hmarked
    obtain ⟨name, hd⟩ := hmarked
    refine hds.imports _ hd name rfl i line before ?_ hline hbefore hwhole
    dsimp only
    omega
  · intro name hname
    rw [hstars, List.mem_map] at hname
    obtain ⟨usage, husage, rfl⟩ := hname
    rw [Diagnostic.starUsages, List.mem_filterMap] at husage
    obtain ⟨d, hd, hd'⟩ := husage
    split at hd'
    · rename_i name sources hproblem
      rw [← Option.some.inj hd']
      exact hds.names d hd name sources hproblem
    · simp at hd'

/-- Editing the reported lines settles the source. -/
theorem settles_filterCode {options : Options} {ds : List Diagnostic} {source : Text}
    {ps : List Text} (hds : Reliable source ds) (h : filterCode options ds source = .ok ps) :
    Settles source ps.flatten := by
  conv => arg 1; rw [← lines_flatten source]
  apply settles_flatten (lined_lines source)
  apply forall₂_of_filterCode h
  intro m hm i line before piece hline hbefore hpiece
  obtain ⟨himports, hnames⟩ := hds.marks hm
  exact settles_editLine ((lined_lines source).line _ (List.mem_of_getElem? hline))
    (himports i line before hline hbefore) hnames hpiece

/-- Dropping lines settles the text. -/
theorem settles_dropRows {ls : List Text} (hl : Lined ls) (marked : List Nat) (row : Nat) :
    Settles ls.flatten (UselessPass.dropRows marked row ls).flatten := by
  induction ls generalizing row with
  | nil => exact Settles.refl []
  | cons l ls ih =>
    have hbound : EndsLine l ∨
        ls.flatten = [] ∧ (UselessPass.dropRows marked (row + 1) ls).flatten = [] := by
      cases ls with
      | nil => exact Or.inr ⟨rfl, rfl⟩
      | cons _ _ => exact Or.inl hl.head_ended
    rw [UselessPass.dropRows]
    split
    · exact (settles_nil (hl.line l (by simp)).ne_nil).append (ih hl.tail (row + 1)) hbound
    · exact (Settles.refl l).append (ih hl.tail (row + 1)) hbound

theorem settles_uselessPass (source : Text) : Settles source (UselessPass.filter source) := by
  conv => arg 1; rw [← lines_flatten source]
  rw [UselessPass.filter, UselessPass.filterLines]
  split
  · exact settles_dropRows (lined_lines source) _ 1
  · exact Settles.refl _

/-- A round changes nothing or lowers the cost. -/
theorem round_eq_or_cost_lt {options : Options} {ds : List Diagnostic} {source next : Text}
    (hds : Reliable source ds) (h : round options ds source = .ok next) :
    next = source ∨ cost next < cost source := by
  obtain ⟨ps, hps, rfl⟩ := round_eq_ok.mp h
  rcases (settles_filterCode hds hps).eq_or_cost_lt with hsame | hless
  · rw [hsame]
    exact (settles_uselessPass source).eq_or_cost_lt
  · rcases (settles_uselessPass ps.flatten).eq_or_cost_lt with hsame | hless'
    · rw [hsame]
      exact Or.inr hless
    · exact Or.inr (hless'.trans hless)

/-- A run has ended: its last round failed, or found nothing to change. -/
def Run.Ended (options : Options) (check : Nat → Text → List Diagnostic) (index : Nat)
    (run : Run) : Prop :=
  ∃ i source, run.passes[i]? = some source ∧ i + 1 = run.passes.length ∧
    ((∃ fault, run.outcome = .failed fault ∧
        round options (check (index + i) source) source = .error fault) ∨
      run.outcome = .done source ∧ round options (check (index + i) source) source = .ok source)

theorem Run.Ended.outcome_ne {options : Options} {check : Nat → Text → List Diagnostic}
    {index : Nat} {run : Run} (h : run.Ended options check index) :
    run.outcome ≠ .unfinished := by
  obtain ⟨i, source, -, -, ⟨fault, hfault, -⟩ | ⟨hdone, -⟩⟩ := h
  · simp [hfault]
  · simp [hdone]

theorem Run.Ended.cons {options : Options} {check : Nat → Text → List Diagnostic}
    {index : Nat} {run : Run} (h : run.Ended options check (index + 1)) (source : Text) :
    Run.Ended options check index { run with passes := source :: run.passes } := by
  obtain ⟨i, last, hlast, hlen, hend⟩ := h
  refine ⟨i + 1, last, hlast, by simpa using hlen, ?_⟩
  rwa [Nat.add_assoc, Nat.add_comm 1 i] at hend

theorem exists_loop_ended {options : Options} {check : Nat → Text → List Diagnostic}
    {index : Nat} {source : Text}
    (h : ∀ rounds i current, (loop options check rounds index source).passes[i]? = some current →
      Reliable current (check (index + i) current)) :
    ∃ rounds, (loop options check rounds index source).Ended options check index := by
  -- Well-founded induction on the cost of the source of the next round.
  induction source using (InvImage.wf cost wellFounded_lt).induction generalizing index with
  | _ source ih =>
    have hds : Reliable source (check index source) :=
      h 1 0 source (head?_passes_loop options check 0 index source)
    cases hround : round options (check index source) source with
    | error fault =>
      refine ⟨1, 0, source, ?_⟩
      simp [loop_succ, hround]
    | ok next =>
      rcases round_eq_or_cost_lt hds hround with rfl | hless
      · refine ⟨1, 0, next, ?_⟩
        simp [loop_succ, hround]
      · have hne : next ≠ source := by
          rintro rfl
          exact lt_irrefl _ hless
        have hlater : ∀ rounds i current,
            (loop options check rounds (index + 1) next).passes[i]? = some current →
              Reliable current (check (index + 1 + i) current) := by
          intro rounds i current hcurrent
          have hstep := h (rounds + 1) (i + 1) current
          rw [loop_succ_of_ne hround hne] at hstep
          rw [Nat.add_assoc, Nat.add_comm 1 i]
          exact hstep hcurrent
        obtain ⟨rounds, hrounds⟩ := ih next hless hlater
        refine ⟨rounds + 1, ?_⟩
        rw [loop_succ_of_ne hround hne]
        exact hrounds.cons source

/-- Fixing a source ends after finitely many rounds, and more rounds than that make no difference:
the last one failed, or it found nothing to change. An empty source is not checked at all. -/
theorem fixCode_ends (options : Options) (check : Nat → Text → List Diagnostic) (source : Text)
    (h : ∀ rounds index current,
      (fixCode options check rounds source).passes[index]? = some current →
        Reliable current (check index current)) :
    ∃ rounds run, (∀ more, fixCode options check (rounds + more) source = run) ∧
      (source = [] ∧ run = ⟨[], .done []⟩ ∨ run.Ended (effective options source) check 0) := by
  cases source with
  | nil => exact ⟨0, ⟨[], .done []⟩, fun _ => rfl, Or.inl ⟨rfl, rfl⟩⟩
  | cons c cs =>
    have hloop : ∀ rounds, fixCode options check rounds (c :: cs) =
        loop (effective options (c :: cs)) check rounds 0 (c :: cs) := fun _ => rfl
    have hchecks : ∀ rounds i current,
        (loop (effective options (c :: cs)) check rounds 0 (c :: cs)).passes[i]? = some current →
          Reliable current (check (0 + i) current) := by
      intro rounds i current hcurrent
      rw [← hloop] at hcurrent
      rw [Nat.zero_add]
      exact h rounds i current hcurrent
    obtain ⟨rounds, hrounds⟩ := exists_loop_ended hchecks
    refine ⟨rounds, _, fun more => ?_, Or.inr hrounds⟩
    rw [hloop, loop_of_finished hrounds.outcome_ne more]

/-- The checks find unused imports and a star in the first round and other things later. -/
theorem fixCode_ends_imports_then_variables :
    ∃ rounds run, (∀ more, fixCode { expandStarImports := true, removeUnusedVariables := true }
      (fun index _ => if index = 0 then
          [⟨1, .unusedImport "os".toList⟩, ⟨1, .unusedImport "sys".toList⟩,
            ⟨2, .starImport "lib".toList⟩, ⟨3, .starUsage "path".toList "lib".toList⟩]
        else [⟨3, .unusedVariable "x".toList⟩])
      (rounds + more) "import os, sys\nfrom lib import *\nx = path\n".toList = run) ∧
      ("import os, sys\nfrom lib import *\nx = path\n".toList = [] ∧ run = ⟨[], .done []⟩ ∨
        run.Ended (effective { expandStarImports := true, removeUnusedVariables := true }
            "import os, sys\nfrom lib import *\nx = path\n".toList)
          (fun index _ => if index = 0 then
              [⟨1, .unusedImport "os".toList⟩, ⟨1, .unusedImport "sys".toList⟩,
                ⟨2, .starImport "lib".toList⟩, ⟨3, .starUsage "path".toList "lib".toList⟩]
            else [⟨3, .unusedVariable "x".toList⟩]) 0) := by
  apply fixCode_ends
  intro rounds index current hcurrent
  cases index with
  | succ index => exact ⟨by simp, by simp⟩
  | zero =>
    have hfirst : current = "import os, sys\nfrom lib import *\nx = path\n".toList := by
      cases rounds with
      | zero => simp [fixCode] at hcurrent
      | succ rounds =>
        rw [fixCode, if_neg (by decide), head?_passes_loop] at hcurrent
        exact (Option.some.inj hcurrent).symm
    subst hfirst
    have hcomplete : IsCompleteImport "import os, sys\n".toList := by
      refine ⟨Or.inl (by rw [OpensWith]; decide), ?_⟩
      intro before after hcut
      have hafter : cutAtWord? importWord false "import os, sys\n".toList =
          some ([], " os, sys\n".toList) := by decide
      obtain ⟨rfl, rfl⟩ := Prod.mk.inj (Option.some.inj (hcut.symm.trans hafter))
      decide
    refine ⟨?_, by simp⟩
    intro d hd name hproblem i line before hi hline hbefore hwhole
    have hone : d.line = 1 := by
      simp only [if_true, List.mem_cons, List.not_mem_nil, or_false] at hd
      rcases hd with rfl | rfl | rfl | rfl
      · rfl
      · rfl
      · simp at hproblem
      · simp at hproblem
    obtain rfl : i = 0 := by omega
    have hfirst : (lines "import os, sys\nfrom lib import *\nx = path\n".toList)[0]? =
        some "import os, sys\n".toList := by decide
    rw [← Option.some.inj (hfirst.symm.trans hline)]
    exact hcomplete

end Pruner.Fix
