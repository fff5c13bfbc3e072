import Pruner.Proofs.Fix.Continuation
import Pruner.Proofs.Rule.ImportLineEnds

namespace Pruner

open Pruner.Text Pruner.Line

theorem Mirrors.exists_ok {same : Prop} {piece : Text} {edit : Edit Text}
    (h : Mirrors same (.ok piece) edit) :
    ∃ piece', edit = .ok piece' ∧ (piece' = crlf piece ↔ same) := by
  cases edit with
  | error fault => exact False.elim h
  | ok piece' => exact ⟨piece', rfl, h⟩

theorem Mirrors.eq_error {same : Prop} {fault : Fault} {edit : Edit Text}
    (h : Mirrors same (.error fault) edit) : edit = .error fault := by
  cases edit with
  | error fault' => exact congrArg Except.error h.symm
  | ok piece' => exact False.elim h

namespace DuplicateKey

variable {ls ls' : List Text}

theorem allHaveKey_congr {entries : List (Int × Key)}
    (h : ∀ e ∈ entries, standsAlone ls' e = standsAlone ls e) :
    allHaveKey ls' entries = allHaveKey ls entries := by
  have hcons (ls : List Text) (e : Int × Key) (rest : List (Int × Key)) :
      allHaveKey ls (e :: rest) =
        (standsAlone ls e >>= fun found => allHaveKey ls rest >>= fun others =>
          .ok (found && others)) := by
    rw [allHaveKey, standsAlone, bind_assoc]
  induction entries with
  | nil => rfl
  | cons e rest ih =>
    rw [List.forall_mem_cons] at h
    rw [hcons, hcons, h.1, ih h.2]

theorem goodLines_congr (h : ∀ e, standsAlone ls' e = standsAlone ls e)
    (groups : List (Key × List (Int × Key))) : goodLines ls' groups = goodLines ls groups := by
  induction groups with
  | nil => rfl
  | cons group rest ih => rw [goodLines, goodLines, allHaveKey_congr fun e _ => h e, ih]

/-- Carriage returns at the ends of lines change nothing about the entries on them. -/
theorem standsAlone_of_forall₂ (h : List.Forall₂ (fun a b => b = a ∨ b = a ++ ['\r']) ls ls')
    (entry : Int × Key) : standsAlone ls' entry = standsAlone ls entry := by
  have hfound (i : Nat) :
      (ls'[i]?.map fun line => hasKey line entry.2) = ls[i]?.map fun line => hasKey line entry.2 := by
    induction h generalizing i with
    | nil => rfl
    | cons hline _ ih =>
      cases i with
      | zero =>
        rcases hline with rfl | rfl
        · rfl
        · exact congrArg some (hasKey_return _ _)
      | succ i => exact ih i
  rw [standsAlone, standsAlone, lineAt, lineAt, h.length_eq]
  generalize (if entry.1 - 1 < 0 then entry.1 - 1 + (ls'.length : Int) else entry.1 - 1) = index
  by_cases hindex : index < 0
  · rw [if_pos hindex, if_pos hindex]
  · rw [if_neg hindex, if_neg hindex]
    have hsame := hfound index.toNat
    cases hline : ls[index.toNat]? with
    | none =>
      rw [hline, Option.map_none, Option.map_eq_none_iff] at hsame
      rw [hsame]
    | some line =>
      rw [hline, Option.map_some, Option.map_eq_some_iff] at hsame
      obtain ⟨line', hline', hkey⟩ := hsame
      rw [hline']
      exact hkey

theorem removableLines_crlf (ds : List Diagnostic) (source : Text) :
    removableLines ds (crlf source) = removableLines ds source :=
  goodLines_congr (standsAlone_of_forall₂ (forall₂_pieces_crlf source)) _

end DuplicateKey

namespace Fix

variable {source line : Text}

theorem marks_crlf (options : Options) (source : Text) (ds : List Diagnostic) :
    marks options (crlf source) ds = marks options source ds := by
  have hstars : markedStars options (crlf source) ds = markedStars options source ds := by
    rw [markedStars, markedStars, mayExpandStars, mayExpandStars,
      hasWord_crlf (by decide) (by decide) (by decide),
      hasWord_crlf (by decide) (by decide) (by decide)]
  rw [marks, marks, hstars, DuplicateKey.removableLines_crlf]

/-- The lines on which the two spellings of a line end are not edited alike: a split import whose
modules change places, an `except` clause that would lose its name, and a star that would give way
to a text with a line feed. -/
def EndingMatters (m : Marks) (number : Nat) (before line : Text) : Prop :=
  '#' ∉ line ∧ match ruleFor? m number with
  | some .imports => isPartialImport line before = false ∧ ',' ∈ line ∧
      Import.isFrom line = false ∧ Import.ReordersModules line
  | some .variables => (Variable.dropExceptName? line).isSome = true ∧ EndsLine line
  | some .stars => '*' ∈ line ∧
      ∃ filled, StarImport.expand ['*'] m.starNames = .ok filled ∧ '\n' ∈ filled
  | some .keys => False
  | none => False

/-- Every line is mirrored, apart from those. -/
theorem editLine_crlf (options : Options) (m : Marks) (number : Nat) (before : Text)
    (hline : IsLine line) (hreturn : '\r' ∉ line) :
    Mirrors (¬EndingMatters m number before line) (editLine options m number before line)
      (editLine options m number (crlf before) (crlf line)) := by
  have hmem : '#' ∈ crlf line ↔ '#' ∈ line := mem_crlf (by decide)
  rw [editLine_eq, editLine_eq, EndingMatters]
  by_cases hhash : '#' ∈ line
  · rw [if_pos hhash, if_pos (hmem.mpr hhash)]
    exact mirrors_ok (by simp [hhash]) line
  · rw [if_neg hhash, if_neg (hmem.not.mpr hhash), eq_true hhash, true_and]
    match ruleFor? m number with
    | some .imports =>
      exact Import.filterUnused_crlf hline hreturn hhash _ _ _ before
    | some .variables => exact Variable.filterUnused_crlf hline hreturn hhash
    | some .stars => exact StarImport.expand_crlf line m.starNames
    | some .keys =>
      dsimp only
      rw [DuplicateKey.filterMarked, DuplicateKey.filterMarked]
      split
      · exact mirrors_ok not_false []
      · exact mirrors_ok not_false line
    | none => exact mirrors_ok not_false line

/-- Editing fails on both spellings for the same reason, or on neither. -/
theorem editLines_crlf (options : Options) (m : Marks) (number : Nat) (previous : Text)
    {ls : List Text} (hls : ∀ l ∈ ls, IsLine l ∧ '\r' ∉ l) :
    (∀ fault, editLines options m number previous ls = .error fault →
      editLines options m number (crlf previous) (ls.map crlf) = .error fault) ∧
    ∀ ps, editLines options m number previous ls = .ok ps →
      ∃ ps', editLines options m number (crlf previous) (ls.map crlf) = .ok ps' := by
  induction ls generalizing number previous with
  | nil => exact ⟨fun fault h => h, fun ps h => ⟨ps, h⟩⟩
  | cons line ls ih =>
    rw [List.forall_mem_cons] at hls
    have hline := editLine_crlf options m number previous hls.1.1 hls.1.2
    obtain ⟨ihfault, ihok⟩ := ih (number + 1) line hls.2
    rw [List.map_cons, editLines, editLines]
    cases hedit : editLine options m number previous line with
    | error fault =>
      rw [hedit] at hline
      rw [hline.eq_error]
      exact ⟨fun fault' h => h, fun ps h => by cases h⟩
    | ok piece =>
      rw [hedit] at hline
      obtain ⟨piece', hpiece', -⟩ := hline.exists_ok
      rw [hpiece']
      cases hrest : editLines options m (number + 1) line ls with
      | error fault =>
        rw [ihfault fault hrest]
        exact ⟨fun fault' h => h, fun ps h => by cases h⟩
      | ok pieces =>
        obtain ⟨pieces', hpieces'⟩ := ihok pieces hrest
        rw [hpieces']
        exact ⟨fun fault h => (by cases h), fun ps _ => ⟨piece' :: pieces', rfl⟩⟩

/-- A source without carriage returns and the same source with one in front of every line feed, with
the same diagnostics: editing fails on both for the same reason, or gives as many pieces for both. A
piece of the second is then that of the first, with carriage returns, exactly if the ending does not
matter on its line. -/
theorem filterCode_crlf_iff (options : Options) (ds : List Diagnostic) (hreturn : '\r' ∉ source) :
    (∀ fault, filterCode options ds source = .error fault →
      filterCode options ds (crlf source) = .error fault) ∧
    ∀ m ps, marks options source ds = .ok m → filterCode options ds source = .ok ps →
      ∃ ps', filterCode options ds (crlf source) = .ok ps' ∧ ps'.length = ps.length ∧
        ∀ i line before piece piece', (lines source)[i]? = some line →
          ([] :: lines source)[i]? = some before → ps[i]? = some piece → ps'[i]? = some piece' →
            (piece' = crlf piece ↔ ¬EndingMatters m (i + 1) before line) := by
  have hls : ∀ l ∈ lines source, IsLine l ∧ '\r' ∉ l := by
    intro l hl
    refine ⟨(lined_lines source).line l hl, fun hmem => hreturn ?_⟩
    rw [← lines_flatten source]
    exact List.mem_flatten.mpr ⟨l, hl, hmem⟩
  rw [filterCode, filterCode, marks_crlf, lines_crlf]
  cases hmarks : marks options source ds with
  | error fault => exact ⟨fun fault' h => h, fun m ps hm => by cases hm⟩
  | ok m =>
    obtain ⟨hfault, hok⟩ := editLines_crlf options m 1 [] hls
    refine ⟨hfault, fun m' ps hm h => ?_⟩
    obtain rfl : m = m' := Except.ok.inj hm
    obtain ⟨ps', hps'⟩ := hok ps h
    have hedit := editLines_eq_ok.mp h
    have hedit' := editLines_eq_ok.mp hps'
    refine ⟨ps', hps', by rw [hedit'.1, hedit.1, List.length_map], ?_⟩
    intro i line before piece piece' hline hbefore hpiece hpiece'
    have hline' : ((lines source).map crlf)[i]? = some (crlf line) := by
      rw [List.getElem?_map, hline, Option.map_some]
    have hbefore' : (crlf [] :: (lines source).map crlf)[i]? = some (crlf before) := by
      rw [← List.map_cons, List.getElem?_map, hbefore, Option.map_some]
    have hstep := hedit.2 i line before piece hline hbefore hpiece
    have hstep' := hedit'.2 i (crlf line) (crlf before) piece' hline' hbefore' hpiece'
    have hmem := hls line (List.mem_of_getElem? hline)
    have hmirror := editLine_crlf options m (1 + i) before hmem.1 hmem.2
    rw [hstep, hstep', Nat.add_comm] at hmirror
    exact hmirror

/-- An `except` clause loses its unused name in front of a bare line feed, and keeps it in front of a
carriage return. -/
theorem except_name_kept_before_return :
    filterCode { removeUnusedVariables := true } [⟨3, .unusedVariable "e".toList⟩]
        "try:\n    f()\nexcept E as e:\n    g()\n".toList =
      .ok (["try:\n", "    f()\n", "except E:\n", "    g()\n"].map String.toList) ∧
    filterCode { removeUnusedVariables := true } [⟨3, .unusedVariable "e".toList⟩]
        (crlf "try:\n    f()\nexcept E as e:\n    g()\n".toList) =
      .ok (["try:\r\n", "    f()\r\n", "except E as e:\r\n", "    g()\r\n"].map String.toList) ∧
    EndingMatters ⟨[], [], [], [], [3], []⟩ 3 "    f()\n".toList "except E as e:\n".toList := by
  have hps := eq_ok_of_toOption (x := filterCode { removeUnusedVariables := true }
      [⟨3, .unusedVariable "e".toList⟩] "try:\n    f()\nexcept E as e:\n    g()\n".toList)
    (a := ["try:\n", "    f()\n", "except E:\n", "    g()\n"].map String.toList)
    (by decide +kernel)
  have hps' := eq_ok_of_toOption (x := filterCode { removeUnusedVariables := true }
      [⟨3, .unusedVariable "e".toList⟩]
      (crlf "try:\n    f()\nexcept E as e:\n    g()\n".toList))
    (a := ["try:\r\n", "    f()\r\n", "except E as e:\r\n", "    g()\r\n"].map String.toList)
    (by decide +kernel)
  refine ⟨hps, hps', ?_⟩
  obtain ⟨qs, hqs, -, hpieces⟩ :=
    (filterCode_crlf_iff { removeUnusedVariables := true } _ (by decide)).2
      ⟨[], [], [], [], [3], []⟩ _ rfl hps
  obtain rfl := Except.ok.inj (hps'.symm.trans hqs)
  have hclause := hpieces 2 _ _ _ _ rfl rfl rfl rfl
  exact not_not.mp (hclause.not.mp (by decide))

end Fix

end Pruner
