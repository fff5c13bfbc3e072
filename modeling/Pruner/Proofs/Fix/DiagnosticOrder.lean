import Pruner.Proofs.Rule.DuplicateKey
import Pruner.Proofs.Text.Pieces

/-!
The order of the diagnostics does not matter.

The rules ask of the marks only which lines and names are among them. So it is enough that the marks
of two lists of diagnostics have the same members, and they do if the lists have the same members.
Only which fault is found first can depend on the order.
-/
namespace Pruner.Fix

open Pruner.Text Pruner.Diagnostic

/-- Marks with the same members. -/
structure Alike (m m' : Marks) : Prop where
  imports : ∀ n, n ∈ m.imports ↔ n ∈ m'.imports
  importNames : ∀ p, p ∈ m.importNames ↔ p ∈ m'.importNames
  stars : ∀ n, n ∈ m.stars ↔ n ∈ m'.stars
  starNames : ∀ name, name ∈ m.starNames ↔ name ∈ m'.starNames
  assignments : ∀ n, n ∈ m.assignments ↔ n ∈ m'.assignments
  keys : ∀ n, n ∈ m.keys ↔ n ∈ m'.keys

section Rules

theorem contains_eq_of_mem_iff {α : Type} [BEq α] [LawfulBEq α] {xs ys : List α}
    (h : ∀ x, x ∈ xs ↔ x ∈ ys) : xs.contains = ys.contains := by
  funext x
  rw [Bool.eq_iff_iff, List.contains_iff_mem, List.contains_iff_mem, h]

/-- Of the unused names only the members count. -/
theorem importFilterUnused_congr {unused unused' : List Text} (h : ∀ x, x ∈ unused ↔ x ∈ unused')
    (line : Text) (removeAll : Bool) (allowed : List Text) (previous : Text) :
    Import.filterUnused line unused removeAll allowed previous =
      Import.filterUnused line unused' removeAll allowed previous := by
  rw [Import.filterUnused, Import.filterUnused, Import.filterFrom, Import.filterFrom,
    contains_eq_of_mem_iff h]

/-- Of the marked lines only the members count: the least of them goes. -/
theorem filterMarked_congr {marked marked' : List Int} (h : ∀ n, n ∈ marked ↔ n ∈ marked')
    (line : Text) (number : Int) :
    DuplicateKey.filterMarked line number marked =
      DuplicateKey.filterMarked line number marked' := by
  have hleast : marked.all (number ≤ ·) = marked'.all (number ≤ ·) := by
    rw [Bool.eq_iff_iff, List.all_eq_true, List.all_eq_true]
    simp only [h]
  rw [DuplicateKey.filterMarked, DuplicateKey.filterMarked, contains_eq_of_mem_iff h, hleast]

theorem expand_congr {names names' : List Text} (h : ∀ x, x ∈ names ↔ x ∈ names') (line : Text) :
    StarImport.expand line names = StarImport.expand line names' := by
  rw [StarImport.expand, StarImport.expand, sortDistinct_congr h]

variable {m m' : Marks}

theorem editLine_congr (h : Alike m m') (options : Options) (number : Nat) (previous line : Text) :
    editLine options m number previous line = editLine options m' number previous line := by
  have hunused : ∀ x, x ∈ (m.importNames.filter (·.1 == (number : Int))).map (·.2) ↔
      x ∈ (m'.importNames.filter (·.1 == (number : Int))).map (·.2) := by
    intro x
    simp only [List.mem_map, List.mem_filter, h.importNames]
  rw [editLine, editLine, contains_eq_of_mem_iff h.imports, contains_eq_of_mem_iff h.assignments,
    contains_eq_of_mem_iff h.keys, contains_eq_of_mem_iff h.stars]
  simp only [importFilterUnused_congr hunused, filterMarked_congr h.keys, expand_congr h.starNames]

theorem editLines_congr (h : Alike m m') (options : Options) (number : Nat) (previous : Text)
    (ls : List Text) :
    editLines options m number previous ls = editLines options m' number previous ls := by
  induction ls generalizing number previous with
  | nil => rfl
  | cons line rest ih => rw [editLines, editLines, editLine_congr h, ih]

end Rules

section Marks

/-- The names of unused imports can be read exactly if every single one can. -/
theorem exists_unusedImportNames_iff {ds : List Diagnostic} :
    (∃ names, unusedImportNames ds = .ok names) ↔
      ∀ n name, ⟨n, .unusedImport name⟩ ∈ ds → ∃ shown, shownName name = .ok shown := by
  induction ds with
  | nil => simp [unusedImportNames]
  | cons d ds ih =>
    obtain ⟨line, problem⟩ := d
    rw [unusedImportNames]
    cases problem with
    | unusedImport found =>
      simp only [bind_eq_ok, List.mem_cons, Diagnostic.mk.injEq, Problem.unusedImport.injEq]
      constructor
      · rintro ⟨names, shown, hshown, rest, hrest, -⟩ n name (⟨-, rfl⟩ | hd)
        · exact ⟨shown, hshown⟩
        · exact ih.mp ⟨rest, hrest⟩ n name hd
      · intro h
        obtain ⟨shown, hshown⟩ := h line found (Or.inl ⟨rfl, rfl⟩)
        obtain ⟨rest, hrest⟩ := ih.mpr fun n name hd => h n name (Or.inr hd)
        exact ⟨_, shown, hshown, rest, hrest, rfl⟩
    | _ => simpa using ih

theorem mem_unusedImportNames {ds : List Diagnostic} {names : List (Int × Text)}
    (h : unusedImportNames ds = .ok names) {n : Int} {shown : Text} :
    (n, shown) ∈ names ↔ ∃ name, ⟨n, .unusedImport name⟩ ∈ ds ∧ shownName name = .ok shown := by
  induction ds generalizing names with
  | nil =>
    rw [← Except.ok.inj h]
    simp
  | cons d ds ih =>
    obtain ⟨line, problem⟩ := d
    rw [unusedImportNames] at h
    cases problem with
    | unusedImport found =>
      simp only [bind_eq_ok, Except.ok.injEq] at h
      obtain ⟨first, hfirst, rest, hrest, rfl⟩ := h
      simp only [List.mem_cons, Prod.mk.injEq, ih hrest, Diagnostic.mk.injEq,
        Problem.unusedImport.injEq, or_and_right, exists_or]
      apply or_congr_left
      constructor
      · rintro ⟨rfl, rfl⟩
        exact ⟨found, ⟨rfl, rfl⟩, hfirst⟩
      · rintro ⟨name, ⟨rfl, rfl⟩, hname⟩
        exact ⟨rfl, Except.ok.inj (hname.symm.trans hfirst)⟩
    | _ => simpa using ih h

variable {ds ds' : List Diagnostic} {options : Options} {source : Text}

/-- The only star import is expanded, so that the lists of star imports can be compared by length. -/
theorem mem_markedStars (h : ∀ d, d ∈ ds ↔ d ∈ ds') (n : Int) :
    n ∈ markedStars options source ds ↔ n ∈ markedStars options source ds' := by
  have hlines : ∀ k, k ∈ starImportLines ds ↔ k ∈ starImportLines ds' := by
    intro k
    simp only [starImportLines, List.mem_filterMap, h]
  have husages : (starUsages ds).isEmpty = (starUsages ds').isEmpty := by
    rw [Bool.eq_iff_iff, List.isEmpty_iff, List.isEmpty_iff, List.eq_nil_iff_forall_not_mem,
      List.eq_nil_iff_forall_not_mem]
    simp only [starUsages, List.mem_filterMap, h]
  have hperm := eraseDups_perm hlines
  rw [markedStars, markedStars, hperm.length_eq, husages]
  split
  · exact hperm.mem_iff
  · rfl

/-- The same diagnostics in another order, or repeated, give the same marks. -/
theorem alike_of_mem_iff {m m' : Marks} (h : ∀ d, d ∈ ds ↔ d ∈ ds')
    (hm : marks options source ds = .ok m) (hm' : marks options source ds' = .ok m') :
    Alike m m' := by
  obtain ⟨himports, hnames, hstars, hstarNames, hassignments, hkeys⟩ := marks_eq_ok.mp hm
  obtain ⟨himports', hnames', hstars', hstarNames', hassignments', hkeys'⟩ := marks_eq_ok.mp hm'
  refine ⟨?_, ?_, ?_, ?_, ?_, ?_⟩
  · intro n
    rw [himports, himports', mem_unusedImportLines, mem_unusedImportLines]
    simp only [h]
  · rintro ⟨n, shown⟩
    rw [mem_unusedImportNames hnames, mem_unusedImportNames hnames']
    simp only [h]
  · intro n
    rw [hstars, hstars']
    exact mem_markedStars h n
  · intro name
    rw [hstarNames, hstarNames']
    simp only [starUsages, List.mem_map, List.mem_filterMap, h]
  · intro n
    rw [hassignments, hassignments']
    split
    · simp only [unusedVariableLines, List.mem_filterMap, h]
    · rfl
  · intro n
    by_cases hremove : options.removeDuplicateKeys = true
    · rw [if_pos hremove] at hkeys hkeys'
      rw [DuplicateKey.mem_removableLines hkeys, DuplicateKey.mem_removableLines hkeys']
      simp only [h]
    · rw [if_neg hremove] at hkeys hkeys'
      rw [← Except.ok.inj hkeys, ← Except.ok.inj hkeys']

/-- Whether there are marks at all depends on the single diagnostics. -/
theorem exists_marks_of_mem_iff {m : Marks} (h : ∀ d, d ∈ ds ↔ d ∈ ds')
    (hm : marks options source ds = .ok m) : ∃ m', marks options source ds' = .ok m' := by
  obtain ⟨-, hnames, -, -, -, hkeys⟩ := marks_eq_ok.mp hm
  obtain ⟨names, hnames'⟩ : ∃ names, unusedImportNames ds' = .ok names := by
    rw [exists_unusedImportNames_iff]
    intro n name hd
    exact exists_unusedImportNames_iff.mp ⟨_, hnames⟩ n name ((h _).mpr hd)
  obtain ⟨keys, hkeys'⟩ : ∃ keys, (if options.removeDuplicateKeys then
      DuplicateKey.removableLines ds' source else .ok []) = .ok keys := by
    by_cases hremove : options.removeDuplicateKeys = true
    · rw [if_pos hremove] at hkeys
      simp only [if_pos hremove]
      rw [DuplicateKey.exists_removableLines_iff]
      intro n key hd
      exact DuplicateKey.exists_removableLines_iff.mp ⟨_, hkeys⟩ n key ((h _).mpr hd)
    · exact ⟨[], if_neg hremove⟩
  exact ⟨⟨_, names, _, _, _, keys⟩, marks_eq_ok.mpr ⟨rfl, hnames', rfl, rfl, rfl, hkeys'⟩⟩

end Marks

/-- What becomes of the lines, if anything does, depends on which diagnostics there are. -/
theorem filterCode_eq_ok_of_mem_iff {options : Options} {ds ds' : List Diagnostic} {source : Text}
    {ps : List Text} (h : ∀ d, d ∈ ds ↔ d ∈ ds') (hps : filterCode options ds source = .ok ps) :
    filterCode options ds' source = .ok ps := by
  obtain ⟨m, hm, hedits⟩ := filterCode_eq_ok.mp hps
  obtain ⟨m', hm'⟩ := exists_marks_of_mem_iff h hm
  refine filterCode_eq_ok.mpr ⟨m', hm', ?_⟩
  rw [← hedits]
  exact (editLines_congr (alike_of_mem_iff h hm hm') options 1 [] (lines source)).symm

/-- Diagnostics in another order give the same pieces, or fail as well. -/
theorem filterCode_perm {ds ds' : List Diagnostic} (h : ds.Perm ds') (options : Options)
    (source : Text) :
    (filterCode options ds source).toOption = (filterCode options ds' source).toOption := by
  have hmem : ∀ d, d ∈ ds ↔ d ∈ ds' := fun d => h.mem_iff
  cases hfirst : filterCode options ds source with
  | ok ps => rw [filterCode_eq_ok_of_mem_iff hmem hfirst]
  | error fault =>
    cases hsecond : filterCode options ds' source with
    | error fault' => rfl
    | ok ps =>
      -- Success in the other order would carry over to this one.
      have hback := filterCode_eq_ok_of_mem_iff (fun d => (hmem d).symm) hsecond
      rw [hfirst] at hback
      contradiction

/-- Two unused names on one line, a star import, and a key that is once a whole number and once a
truth value. -/
def mixedDiagnostics : List Diagnostic :=
  [⟨1, .unusedImport "a.c".toList⟩, ⟨1, .unusedImport "a.b".toList⟩,
    ⟨2, .starImport "lib".toList⟩, ⟨4, .repeatedKey (.constant (.int 1))⟩,
    ⟨5, .repeatedKey (.constant (.bool true))⟩, ⟨5, .starUsage "p".toList "lib".toList⟩]

def mixedSource : Text :=
  "from a import b, c, d\nfrom lib import *\n\x7b\n    1: 0,\n    True: p,\n\x7d\n".toList

theorem filterCode_perm_reversed :
    (filterCode ⟨[], true, true, true, false⟩ mixedDiagnostics mixedSource).toOption =
      some (["from a import d\n", "from lib import p\n", "\x7b\n", "", "    True: p,\n",
        "\x7d\n"].map String.toList) ∧
    (filterCode ⟨[], true, true, true, false⟩ mixedDiagnostics mixedSource).toOption =
      (filterCode ⟨[], true, true, true, false⟩ mixedDiagnostics.reverse mixedSource).toOption :=
  ⟨by decide +kernel, filterCode_perm (List.reverse_perm _).symm _ _⟩

end Pruner.Fix
