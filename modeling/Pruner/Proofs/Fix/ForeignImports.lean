import Pruner.Proofs.Fix.OnlyImports
import Pruner.Proofs.Rule.Packages

namespace Pruner.Fix

open Pruner.Text Pruner.Line Pruner.Import Pruner.Token

section

variable {line before piece : Text} {unused known : List Text}

/-- The edit of an import line keeps the clauses of unknown packages. -/
theorem lineSum_foreignClauses (hl : IsLine line) (he : EndsLine line)
    (hopen : IsSpacedImport line)
    (h : filterUnused line unused false known before = .ok piece) :
    lineSum (fun l => (foreignClauses known l : Multiset Text)) piece =
      (foreignClauses known line : Multiset Text) := by
  have hfrom_none (hfrom : OpensWith fromWord line) : foreignClauses known line = [] :=
    foreignClauses_of_not fun himport => himport.not_from hfrom
  rcases hopen.opensImport.filterUnused_cases hl h with
    rfl | ⟨a, after, ha, himport, hcut, rfl⟩ | ⟨found, hfound, hmay, hpiece⟩
  · exact hl.lineSum_eq
  · rw [lineSum_coe, lines_ownLines hl he hcut]
    exact Multiset.coe_eq_coe.mpr (foreignClauses_ownLines himport ha hcut known)
  · have hknown := hmay.resolve_left Bool.false_ne_true
    rcases hpiece with ⟨rfl, hplain⟩ | ⟨before', after, names, hfrom, hcut, rfl, hpiece⟩
    · rw [(isLine_passFor hl).lineSum_eq,
        foreignClauses_of_not (not_opensWith_of_pass (trim_passFor line)).1]
      rcases hopen with himport | hfrom
      · have hroot := himport.root_mem (Or.inl rfl) hfound hknown
        have hcomma : ',' ∉ line := hplain.resolve_left himport.1.not_from
        rw [foreignClauses_of_known hcomma hroot]
      · rw [hfrom_none hfrom.1]
    · rw [hpiece.lineSum_eq, hfrom_none hfrom, foreignClauses_of_not]
      exact fun himport => himport.not_from (hfrom.withNames hcut names)

/-- The edit of an import line keeps the `from` imports of unknown packages. -/
theorem lineSum_isForeignFrom (hl : IsLine line) (he : EndsLine line)
    (hopen : IsSpacedImport line) (hclosed : ImportClosed known known)
    (h : filterUnused line unused false known before = .ok piece) :
    lineSum (pick (isForeignFrom known) id) piece = pick (isForeignFrom known) id line := by
  have hnot {l : Text} (hl : ¬OpensWith fromWord l) : pick (isForeignFrom known) id l = 0 :=
    pick_of_not (isForeignFrom_eq_false.mpr fun hfrom => absurd hfrom hl)
  rcases hopen.opensImport.filterUnused_cases hl h with
    rfl | ⟨a, after, ha, himport, hcut, rfl⟩ | ⟨found, hfound, hmay, hpiece⟩
  · exact hl.lineSum_eq
  · rw [hnot himport.not_from]
    apply lineSum_eq_zero
    intro l hmem
    rw [lines_ownLines hl he hcut] at hmem
    obtain ⟨x, -, rfl⟩ := mem_ownLines.mp hmem
    rw [List.append_assoc]
    exact hnot (opensWith_import ha _).not_from
  · -- The package of the line is known, so the line did not count before either.
    have hknown := hmay.resolve_left Bool.false_ne_true
    have hline : pick (isForeignFrom known) id line = 0 := by
      rcases hopen with himport | hfrom
      · exact hnot himport.1.not_from
      · have hroot := hfrom.root_mem (Or.inr rfl) hfound hknown
        exact pick_of_not (isForeignFrom_eq_false.mpr fun _ => hroot)
    rw [hline]
    rcases hpiece with ⟨rfl, -⟩ | ⟨before', after, names, hfrom, hcut, rfl, hpiece⟩
    · rw [(isLine_passFor hl).lineSum_eq]
      exact hnot (not_opensWith_of_pass (trim_passFor line)).2
    · have hspaced : OpensSpaced fromWord line :=
        hopen.resolve_left fun himport => himport.1.not_from hfrom
      have hroot := hspaced.root_mem (Or.inr rfl) hfound hknown
      rw [hpiece.lineSum_eq]
      exact pick_of_not (isForeignFrom_withNames hspaced hclosed hcut hroot names)

end

section

variable {options : Options} {check : Nat → Text → List Diagnostic} {rounds : Nat}
  {source result : Text}

theorem importClosed_allowed (h : ImportClosed options.additionalImports options.allowed) :
    ImportClosed options.allowed options.allowed := by
  intro name hname cut hcut
  rcases List.mem_append.mp hname with hname | hname
  · rw [cutAtWord?_removable hname] at hcut
    exact absurd hcut (Option.not_mem_none cut)
  · exact h name hname cut hcut

/-- A run that does not remove all unused imports keeps the imports of packages that it does not
know: the clauses of `import` lines up to their order, and the `from` imports as they are, in their
order. For `from` imports no additional name may contain the word `import`, unless the part of the
name up to that word is known as well. -/
theorem fixCode_keeps_foreign_imports (hopts : OnlyImports options)
    (hall : options.removeAllUnusedImports = false) (hsource : source = [] ∨ EndsLine source)
    (hchecks : ∀ index current,
      (fixCode options check rounds source).passes[index]? = some current →
        ReportsOn IsSpacedImport current (check index current))
    (h : (fixCode options check rounds source).outcome = .done result) :
    ((lines result).flatMap (foreignClauses options.allowed)).Perm
      ((lines source).flatMap (foreignClauses options.allowed)) ∧
    (ImportClosed options.additionalImports options.allowed →
      (lines result).filter (isForeignFrom options.allowed) =
        (lines source).filter (isForeignFrom options.allowed)) := by
  have hended : ∀ index current,
      (fixCode options check rounds source).passes[index]? = some current →
        ReportsOn (fun line => IsSpacedImport line ∧ EndsLine line) current
          (check index current) := by
    intro index current hcurrent p hp hmarked
    refine ⟨hchecks index current hcurrent p hp hmarked, ?_⟩
    exact endsLine_of_mem_lines (hopts.passes_ended hsource hcurrent)
      (List.fst_mem_of_mem_zipIdx hp)
  constructor
  · have hsum : lineSum (fun l => (foreignClauses options.allowed l : Multiset Text)) result =
        lineSum (fun l => (foreignClauses options.allowed l : Multiset Text)) source := by
      apply hopts.lineSum_fixCode hended _ _ h
      · intro line hpass
        rw [foreignClauses_of_not (not_opensWith_of_pass hpass).1]
        rfl
      · intro line before unused piece hl hkind hfilter
        rw [hall] at hfilter
        exact lineSum_foreignClauses hl hkind.2 hkind.1 hfilter
    rw [lineSum_coe, lineSum_coe] at hsum
    exact Multiset.coe_eq_coe.mp hsum
  · intro hnames
    apply filter_lines_eq
    apply hopts.lineSum_fixCode hended _ _ h
    · intro line hpass
      have hnot := (not_opensWith_of_pass hpass).2
      exact pick_of_not (isForeignFrom_eq_false.mpr fun hfrom => absurd hfrom hnot)
    · intro line before unused piece hl hkind hfilter
      rw [hall] at hfilter
      exact lineSum_isForeignFrom hl hkind.2 hkind.1 (importClosed_allowed hnames) hfilter

end

/-- A known and an unknown module on one line get lines of their own. -/
theorem fixCode_keeps_foreign_imports_split :
    let options : Options := { additionalImports := ["lib".toList] }
    let source := "import os, numpy\nfrom numpy import array\n".toList
    let result := "import numpy\nimport os\nfrom numpy import array\n".toList
    (fixCode options (fun index _ => if index = 0 then [⟨1, .unusedImport "os".toList⟩] else [])
      2 source).outcome = .done result ∧
    ((lines result).flatMap (foreignClauses options.allowed)).Perm
      ((lines source).flatMap (foreignClauses options.allowed)) ∧
    (lines result).filter (isForeignFrom options.allowed) =
      (lines source).filter (isForeignFrom options.allowed) := by
  intro options source result
  have hpiece : editLine options ⟨[1], [(1, "os".toList)], [], [], [], []⟩ 1 []
      "import os, numpy\n".toList = .ok "import numpy\nimport os\n".toList := by
    have hrule : ruleFor? ⟨[1], [(1, "os".toList)], [], [], [], []⟩ 1 = some .imports := rfl
    have hsplit : breakUp "import os, numpy\n".toList = .ok "import numpy\nimport os\n".toList := by
      cbv
    rw [editLine_eq, if_neg (by decide), hrule]
    dsimp only
    rw [filterUnused_of_modules _ _ _ (by decide +kernel) (by decide) (by decide)]
    exact hsplit
  have hdone : (fixCode options
      (fun index _ => if index = 0 then [⟨1, .unusedImport "os".toList⟩] else [])
      2 source).outcome = .done result := by
    apply outcome_of_two_rounds (by decide)
    · refine round_eq_ok.mpr
        ⟨["import numpy\nimport os\n".toList, "from numpy import array\n".toList],
          filterCode_eq_ok.mpr ⟨_, rfl, ?_⟩, by decide +kernel⟩
      exact editLines_cons_eq_ok.mpr ⟨_, _, hpiece, rfl, rfl⟩
    · rfl
  have hchecks : ∀ index current, (fixCode options
      (fun index _ => if index = 0 then [⟨1, .unusedImport "os".toList⟩] else [])
      2 source).passes[index]? = some current → ReportsOn IsSpacedImport current
        (if index = 0 then [⟨1, .unusedImport "os".toList⟩] else []) := by
    intro index current hcurrent
    cases index with
    | zero =>
      rw [fixCode_passes_zero hcurrent]
      decide
    | succ index =>
      intro p hp hmarked
      simp [Diagnostic.unusedImportLines] at hmarked
  have hclosed : ImportClosed options.additionalImports options.allowed := by
    intro name hname cut hcut
    have hnone : cutAtWord? importWord false "lib".toList = none := by decide
    rw [List.mem_singleton.mp hname, hnone] at hcut
    exact absurd hcut (Option.not_mem_none cut)
  have hends : EndsLine source := by
    rw [EndsLine]
    decide
  obtain ⟨hperm, hfrom⟩ :=
    fixCode_keeps_foreign_imports ⟨rfl, rfl, rfl⟩ rfl (Or.inr hends) hchecks hdone
  exact ⟨hdone, hperm, hfrom hclosed⟩

/-- The word `import` inside of a known name: the rule takes it for the word before the names, and
the package of the line becomes one that is not known. -/
theorem foreign_import_made :
    let options : Options := { additionalImports := ["a-import*".toList] }
    (fixCode options
      (fun index _ => if index = 0 then [⟨1, .unusedImport "x".toList⟩] else [])
      2 "from a-import* , b\n".toList).outcome = .done "from a-import *, b\n".toList ∧
    (lines "from a-import *, b\n".toList).filter (isForeignFrom options.allowed) ≠
      (lines "from a-import* , b\n".toList).filter (isForeignFrom options.allowed) := by
  intro options
  have hknown : "a-import*".toList ∈ options.allowed :=
    List.mem_append_right _ (List.mem_singleton.mpr rfl)
  have hforeign : "a-import".toList ∉ options.allowed := by
    intro hmem
    rcases List.mem_append.mp hmem with hmem | hmem
    · have hcut : cutAtWord? importWord false "a-import".toList = some ("a-".toList, []) := by
        decide
      rw [cutAtWord?_removable hmem] at hcut
      exact absurd hcut.symm (Option.some_ne_none _)
    · have hother : "a-import".toList ∉ ["a-import*".toList] := by decide
      exact hother hmem
  constructor
  · have hfilter : filterFrom "from a-import* , b\n".toList ["x".toList] =
        .ok "from a-import *, b\n".toList := by
      cbv
    have hpiece : editLine options ⟨[1], [(1, "x".toList)], [], [], [], []⟩ 1 []
        "from a-import* , b\n".toList = .ok "from a-import *, b\n".toList := by
      have hrule : ruleFor? ⟨[1], [(1, "x".toList)], [], [], [], []⟩ 1 = some .imports := rfl
      rw [editLine_eq, if_neg (by decide), hrule]
      dsimp only
      rw [filterUnused_of_names _ _ (by decide +kernel) (by decide) (by decide) rfl hknown]
      exact hfilter
    apply outcome_of_two_rounds (by decide)
    · refine round_eq_ok.mpr ⟨["from a-import *, b\n".toList], filterCode_eq_ok.mpr ⟨_, rfl, ?_⟩,
        by decide +kernel⟩
      exact editLines_cons_eq_ok.mpr ⟨_, [], hpiece, rfl, rfl⟩
    · rfl
  · intro heq
    have htrue : isForeignFrom options.allowed "from a-import *, b\n".toList = true := by
      rw [← Bool.not_eq_false, isForeignFrom_eq_false]
      intro himp
      exact hforeign (himp (by decide))
    have hmem : "from a-import *, b\n".toList ∈
        (lines "from a-import *, b\n".toList).filter (isForeignFrom options.allowed) :=
      List.mem_filter.mpr ⟨by decide, htrue⟩
    rw [heq] at hmem
    have hnot : "from a-import *, b\n".toList ∉ lines "from a-import* , b\n".toList := by decide
    exact hnot (List.mem_filter.mp hmem).1

end Pruner.Fix
