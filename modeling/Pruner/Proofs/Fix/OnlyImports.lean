import Pruner.Proofs.Fix.Continuation
import Pruner.Proofs.Fix.Run
import Pruner.Proofs.Rule.ImportPieces

namespace Pruner.Fix

open Pruner.Text Pruner.Line Pruner.Import Pruner.Token

/-- Nothing but unused imports is to be removed, and nothing is to be expanded. -/
structure OnlyImports (options : Options) : Prop where
  stars : options.expandStarImports = false
  keys : options.removeDuplicateKeys = false
  assignments : options.removeUnusedVariables = false

/-- Every line with a report of an unused import is of the given kind. -/
def ReportsOn (kind : Text → Prop) (source : Text) (ds : List Diagnostic) : Prop :=
  ∀ p ∈ (lines source).zipIdx 1, (p.2 : Int) ∈ Diagnostic.unusedImportLines ds → kind p.1

instance (kind : Text → Prop) [DecidablePred kind] (source : Text) (ds : List Diagnostic) :
    Decidable (ReportsOn kind source ds) :=
  inferInstanceAs (Decidable (∀ p ∈ (lines source).zipIdx 1, _ → kind p.1))

section

variable {options : Options} {check : Nat → Text → List Diagnostic} {rounds : Nat}
  {source result : Text} {ds : List Diagnostic} {m : Marks}

/-- Without other options there is no rule but the one for imports. -/
theorem OnlyImports.ruleFor? (h : OnlyImports options) (hm : marks options source ds = .ok m)
    {number : Nat} {rule : Rule} (hrule : ruleFor? m number = some rule) :
    rule = .imports ∧ (number : Int) ∈ m.imports := by
  obtain ⟨-, -, hstars, -, hassignments, hkeys⟩ := marks_eq_ok.mp hm
  have hnone : m.assignments = [] ∧ m.keys = [] ∧ m.stars = [] := by
    rw [hassignments, hstars, h.assignments, markedStars, mayExpandStars, h.stars]
    rw [h.keys] at hkeys
    exact ⟨rfl, (Except.ok.inj hkeys).symm, rfl⟩
  rw [Fix.ruleFor?, hnone.1, hnone.2.1, hnone.2.2] at hrule
  split at hrule
  · rename_i hmarked
    exact ⟨(Option.some.inj hrule).symm, List.contains_iff_mem.mp hmarked⟩
  · simp at hrule

/-- A line stays, or it is of the kind that is reported and loses imports. -/
theorem OnlyImports.editLine_cases (hopts : OnlyImports options) {kind : Text → Prop}
    (hreports : ReportsOn kind source ds) (hm : marks options source ds = .ok m) {i : Nat}
    {line before piece : Text} (hline : (lines source)[i]? = some line)
    (h : editLine options m (1 + i) before line = .ok piece) :
    piece = line ∨ kind line ∧ filterUnused line (unusedOn m (1 + i))
      options.removeAllUnusedImports options.allowed before = .ok piece := by
  rw [editLine_eq] at h
  split at h
  · exact Or.inl (Except.ok.inj h).symm
  · cases hrule : Fix.ruleFor? m (1 + i) with
    | none =>
      rw [hrule] at h
      exact Or.inl (Except.ok.inj h).symm
    | some rule =>
      obtain ⟨rfl, hmarked⟩ := hopts.ruleFor? hm hrule
      rw [hrule] at h
      refine Or.inr ⟨?_, h⟩
      rw [(marks_eq_ok.mp hm).1] at hmarked
      apply hreports (line, 1 + i) _ hmarked
      rwa [List.mem_zipIdx_iff_le_and_getElem?_sub, and_iff_right (by omega),
        Nat.add_sub_cancel_left]

/-- The line feed at the end of a source is kept throughout the run. -/
theorem OnlyImports.passes_ended (hopts : OnlyImports options)
    (hsource : source = [] ∨ EndsLine source) {index : Nat} {current : Text}
    (h : (fixCode options check rounds source).passes[index]? = some current) :
    current = [] ∨ EndsLine current := by
  apply fixCode_passes_invariant (P := fun t => t = [] ∨ EndsLine t) hsource _ h
  intro index current next _ hcurrent hnext
  rw [effective_eq_of_not_variables hopts.assignments] at hnext
  apply ended_round hcurrent _ hnext
  intro m hm i line before piece hline hpiece he
  have hany : ReportsOn (fun _ => True) current (check index current) := fun _ _ _ => trivial
  rcases hopts.editLine_cases hany hm hline hpiece with rfl | ⟨-, hfilter⟩
  · exact he
  · exact endsLine_filterUnused hfilter he

/-- A run keeps what is read off the lines, if the edits of the reported lines keep it. -/
theorem OnlyImports.lineSum_fixCode {M : Type} [AddMonoid M] {weight : Text → M}
    {kind : Text → Prop} (hopts : OnlyImports options)
    (hchecks : ∀ index current,
      (fixCode options check rounds source).passes[index]? = some current →
        ReportsOn kind current (check index current))
    (hpass : ∀ line, trim line = passWord → weight line = 0)
    (hedit : ∀ line before unused piece, IsLine line → kind line →
      filterUnused line unused options.removeAllUnusedImports options.allowed before = .ok piece →
        lineSum weight piece = weight line)
    (h : (fixCode options check rounds source).outcome = .done result) :
    lineSum weight result = lineSum weight source := by
  apply Fix.lineSum_fixCode hpass _ h
  intro index current hcurrent m hm i line before piece hline hpiece
  have hl : IsLine line := (lined_lines current).line line (List.mem_of_getElem? hline)
  rw [effective_eq_of_not_variables hopts.assignments] at hm hpiece
  rcases hopts.editLine_cases (hchecks index current hcurrent) hm hline hpiece with
    rfl | ⟨hkind, hfilter⟩
  · exact StandsFor.refl hl
  · apply standsFor_of_ends
    · exact fun he => Or.inr (endsLine_filterUnused hfilter he)
    · exact hedit line before _ piece hl hkind hfilter

/-- A line that is neither an import nor a `pass`. -/
def isOrdinary (line : Text) : Bool :=
  trim line != passWord && !decide (OpensImport line)

theorem isOrdinary_eq_false {line : Text} :
    isOrdinary line = false ↔ trim line = passWord ∨ OpensImport line := by
  simp [isOrdinary, Classical.or_iff_not_imp_left]

/-- Where an import line stood there are only imports and `pass` statements. -/
theorem lines_of_filterUnused {line previous piece : Text} {unused allowed : List Text}
    {removeAll : Bool} (hl : IsLine line) (hopen : OpensImport line)
    (h : filterUnused line unused removeAll allowed previous = .ok piece) :
    ∀ l ∈ lines piece, trim l = passWord ∨ OpensImport l := by
  have hsingle {t : Text} (ht : IsLine t) (hkind : trim t = passWord ∨ OpensImport t) :
      ∀ l ∈ lines t, trim l = passWord ∨ OpensImport l := by
    intro l hmem
    rw [ht.lines_eq] at hmem
    rwa [List.mem_singleton.mp hmem]
  rcases hopen.filterUnused_cases hl h with
    rfl | ⟨a, after, ha, -, hcut, rfl⟩ |
      ⟨-, -, -, ⟨rfl, -⟩ | ⟨before, after, names, hfrom, hcut, rfl, hpiece⟩⟩
  · exact hsingle hl (Or.inr hopen)
  · by_cases he : EndsLine line
    · intro l hmem
      rw [lines_ownLines hl he hcut] at hmem
      obtain ⟨x, -, rfl⟩ := mem_ownLines.mp hmem
      rw [List.append_assoc]
      exact Or.inr (Or.inl (opensWith_import ha _))
    · -- Without a line feed all clauses end up on one line, which starts with the first of them.
      have hnewline : '\n' ∉ line := by
        rcases hl.cases with ⟨s, -, rfl⟩ | hnot
        · exact absurd (endsLine_append s) he
        · exact hnot
      have hpiece : '\n' ∉ (ownLines line a after).flatten := by
        intro hmem
        rcases mem_of_mem_ownLines hcut hmem with hmem | hmem
        · exact hnewline hmem
        · have hadded : '\n' ∉ addedChars := by decide
          exact hadded hmem
      obtain ⟨l, ls, hls⟩ := List.exists_cons_of_ne_nil (ownLines_ne_nil line a after)
      obtain ⟨x, -, hx⟩ := mem_ownLines.mp (show l ∈ ownLines line a after by simp [hls])
      have hfirst : (ownLines line a after).flatten =
          a ++ "import ".toList ++ (trim x ++ ending line ++ ls.flatten) := by
        rw [hls, List.flatten_cons, hx]
        simp
      have hopens := opensWith_import ha (trim x ++ ending line ++ ls.flatten)
      rw [← hfirst] at hopens
      apply hsingle (isLine_of_not_mem _ hpiece) (Or.inr (Or.inl hopens))
      rw [hfirst]
      simp
  · exact hsingle (isLine_passFor hl) (Or.inl (trim_passFor line))
  · exact hsingle hpiece (Or.inr (Or.inr (hfrom.withNames hcut names)))

/-- A run that only removes unused imports leaves all lines that are neither imports nor `pass`
statements as they are, and in their order. -/
theorem fixCode_keeps_ordinary_lines (hopts : OnlyImports options)
    (hchecks : ∀ index current,
      (fixCode options check rounds source).passes[index]? = some current →
        ReportsOn OpensImport current (check index current))
    (h : (fixCode options check rounds source).outcome = .done result) :
    (lines result).filter isOrdinary = (lines source).filter isOrdinary := by
  apply filter_lines_eq
  apply hopts.lineSum_fixCode hchecks _ _ h
  · intro line hpass
    exact pick_of_not (isOrdinary_eq_false.mpr (Or.inl hpass))
  · intro line before unused piece hl hopen hfilter
    rw [pick_of_not (isOrdinary_eq_false.mpr (Or.inr hopen))]
    apply lineSum_eq_zero
    intro l hmem
    exact pick_of_not (isOrdinary_eq_false.mpr (lines_of_filterUnused hl hopen hfilter l hmem))

/-- Imports go from two places, and a `pass` with them; the other lines stay. -/
theorem fixCode_keeps_ordinary_lines_around_imports :
    (fixCode { removeAllUnusedImports := true }
      (fun index _ => if index = 0 then
          [⟨1, .unusedImport "os".toList⟩, ⟨4, .unusedImport "sys".toList⟩]
        else [])
      3 "import os\nx = 1\ntry:\n    import sys\nexcept E:\n    y()\n    pass\n".toList).outcome =
      .done "x = 1\ntry:\n    pass\nexcept E:\n    y()\n".toList ∧
    (lines "x = 1\ntry:\n    pass\nexcept E:\n    y()\n".toList).filter isOrdinary =
      (lines "import os\nx = 1\ntry:\n    import sys\nexcept E:\n    y()\n    pass\n".toList).filter
        isOrdinary := by
  refine (and_iff_left_of_imp fun hdone =>
    fixCode_keeps_ordinary_lines ⟨rfl, rfl, rfl⟩ ?_ hdone).mpr ?_
  · intro index current hcurrent
    cases index with
    | zero =>
      obtain rfl := fixCode_passes_zero hcurrent
      decide
    | succ index =>
      intro p hp hmarked
      simp [Diagnostic.unusedImportLines] at hmarked
  · decide +kernel

end

end Pruner.Fix
