import Pruner.Proofs.Import.Spacing

/-!
Names of a `from` import as they are reported, and as the rule that drops them spells them. The two
spellings of a clause are the same only for a module that does not end in a point, with a space
after it, and for a clause in its plain form. Exactly then the names that are reported are dropped.
-/
namespace Pruner.Text

theorem IsIdentifier.words_eq {name : Text} (h : IsIdentifier name) : words name = [name] :=
  words_of_no_blank h.ne_nil fun c hc => isBlank_of_isIdentifierPart (h.part c hc)

theorem IsIdentifier.no_point {name : Text} (h : IsIdentifier name) : '.' ∉ name :=
  h.not_mem (by decide)

end Pruner.Text

namespace Pruner.Import

open Pruner.Text Pruner.Line

/-- A clause of a `from` import: a name, or a name and a new name for it. -/
inductive IsNameClause (x : Text) : Prop
  | name {name : Text} (hwords : words x = [name]) (hname : IsIdentifier name)
  | renamed {name newName : Text} (hwords : words x = [name, "as".toList, newName])
      (hname : IsIdentifier name) (hnew : IsIdentifier newName)

/-- A clause as it is reported: with single spaces, and without a new name that is the old one. -/
def plainClause (x : Text) : Text :=
  match words x with
  | [name, _, newName] => if name = newName then name else name ++ " as ".toList ++ newName
  | ws => ws.headD []

/-- The name under which an unused clause is reported. -/
def reportedName (source x : Text) : Text :=
  if source.getLast? = some '.' then source ++ plainClause x else source ++ ['.'] ++ plainClause x

section

variable {name newName x : Text}

theorem words_renamed (hname : IsIdentifier name) (hnew : IsIdentifier newName) :
    words (name ++ " as ".toList ++ newName) = [name, "as".toList, newName] := by
  have hblank : isBlank ' ' = true := by decide
  have has : words "as".toList = ["as".toList] := by decide
  calc words (name ++ " as ".toList ++ newName)
      = words (name ++ ' ' :: ("as".toList ++ ' ' :: newName)) := by simp
    _ = [name] ++ (["as".toList] ++ [newName]) := by
        rw [words_append_blank hblank, words_append_blank hblank, hname.words_eq, has,
          hnew.words_eq]
    _ = [name, "as".toList, newName] := rfl

/-- The plain form of a clause is in its plain form. -/
theorem IsNameClause.plainClause_plainClause (h : IsNameClause x) :
    plainClause (plainClause x) = plainClause x := by
  cases h with
  | @name name hwords hname =>
    have hplain : plainClause x = name := by rw [plainClause, hwords]; rfl
    rw [hplain, plainClause, hname.words_eq]
    rfl
  | @renamed name newName hwords hname hnew =>
    by_cases hsame : name = newName
    · have hplain : plainClause x = name := by rw [plainClause, hwords]; exact if_pos hsame
      rw [hplain, plainClause, hname.words_eq]
      rfl
    · have hplain : plainClause x = name ++ " as ".toList ++ newName := by
        rw [plainClause, hwords]
        exact if_neg hsame
      rw [hplain, plainClause, words_renamed hname hnew]
      exact if_neg hsame

theorem IsNameClause.no_point (h : IsNameClause x) : '.' ∉ x := by
  intro hmem
  have has : '.' ∉ "as".toList := by decide
  obtain ⟨w, hw, hpoint⟩ := exists_word_of_mem hmem (by decide)
  cases h with
  | name hwords hname =>
    rw [hwords, List.mem_singleton] at hw
    exact hname.no_point (hw ▸ hpoint)
  | renamed hwords hname hnew =>
    rw [hwords] at hw
    simp only [List.mem_cons, List.not_mem_nil, or_false] at hw
    rcases hw with rfl | rfl | rfl
    · exact hname.no_point hpoint
    · exact has hpoint
    · exact hnew.no_point hpoint

theorem IsNameClause.point_not_mem_plainClause (h : IsNameClause x) : '.' ∉ plainClause x := by
  have has : '.' ∉ " as ".toList := by decide
  cases h with
  | name hwords hname =>
    rw [plainClause, hwords]
    exact hname.no_point
  | renamed hwords hname hnew =>
    rw [plainClause, hwords]
    dsimp only
    split
    · exact hname.no_point
    · simp only [List.mem_append, not_or]
      exact ⟨⟨hname.no_point, has⟩, hnew.no_point⟩

end

/-- Of a list in two parts the second one passes a test exactly as a whole, and the first nowhere. -/
theorem filter_perm_iff {p : Text → Bool} {xs chosen left : List Text}
    (hsplit : (chosen ++ left).Perm xs) :
    (xs.filter p).Perm left ↔ (∀ x ∈ chosen, p x = false) ∧ ∀ x ∈ left, p x = true := by
  have hfilter : (chosen.filter p ++ left.filter p).Perm (xs.filter p) := by
    rw [← List.filter_append]
    exact hsplit.filter p
  constructor
  · intro hperm
    have hleft : ∀ x ∈ left, p x = true :=
      fun x hx => (List.mem_filter.mp (hperm.mem_iff.mpr hx)).2
    have hlength := (hfilter.trans hperm).length_eq
    rw [List.length_append, List.filter_eq_self.mpr hleft] at hlength
    have hnil : chosen.filter p = [] := List.length_eq_zero_iff.mp (by omega)
    refine ⟨fun x hx => ?_, hleft⟩
    simpa using List.filter_eq_nil_iff.mp hnil x hx
  · rintro ⟨hchosen, hleft⟩
    have hnil : chosen.filter p = [] :=
      List.filter_eq_nil_iff.mpr fun x hx => by simp [hchosen x hx]
    rw [hnil, List.nil_append, List.filter_eq_self.mpr hleft] at hfilter
    exact hfilter.symm

/-- The names of a line can be read off it. -/
theorem withNames_injective {line before : Text} {xs ys : List Text} (hxs : xs ≠ []) (hys : ys ≠ [])
    (hx : ∀ x ∈ xs, IsClause x) (hy : ∀ y ∈ ys, IsClause y)
    (h : withNames line before xs = withNames line before ys) : xs = ys := by
  have hjoin := List.append_cancel_left (List.append_cancel_right h)
  rw [← map_trim_commaPieces_join hxs hx, hjoin, map_trim_commaPieces_join hys hy]

namespace NamesLine

variable (l : NamesLine)

/-- The clauses that a result has: those of the line with other clauses, or none of a `pass`. -/
def Leaves (left : List Text) (result : Text) : Prop :=
  if left = [] then result = passFor l.line
  else ∃ order : List Text, order.Perm left ∧ result = withNames l.line l.before order

theorem withNames_ne_pass (names : List Text) : withNames l.line l.before names ≠ passFor l.line := by
  intro h
  have hletter : 'f' ∈ withNames l.line l.before names := by
    simp [withNames, before, fromWord]
  have hpass : 'f' ∉ Token.passWord := by decide
  apply hpass
  rw [← trim_passFor l.line, ← h]
  exact mem_trim hletter (by decide)

theorem leaves_iff {kept left : List Text} (hkept : ∀ x ∈ kept, IsClause x)
    (hleft : ∀ x ∈ left, IsClause x) :
    l.Leaves left (if kept = [] then passFor l.line else withNames l.line l.before (sort kept)) ↔
      kept.Perm left := by
  by_cases hnone : left = []
  · rw [Leaves, if_pos hnone, hnone, List.perm_nil]
    by_cases hall : kept = []
    · simp [hall]
    · rw [if_neg hall]
      exact iff_of_false (l.withNames_ne_pass _) hall
  · rw [Leaves, if_neg hnone]
    by_cases hall : kept = []
    · rw [if_pos hall]
      refine iff_of_false ?_ fun hperm => hnone (by rw [hall] at hperm; exact hperm.symm.eq_nil)
      rintro ⟨order, -, hpass⟩
      exact l.withNames_ne_pass order hpass.symm
    · rw [if_neg hall]
      constructor
      · rintro ⟨order, hperm, hsame⟩
        have hsorted : sort kept = order := by
          refine withNames_injective ?_ ?_ (fun x hx => ?_) (fun x hx => ?_) hsame
          · exact fun hnil => hall ((sort_perm kept).symm.trans (by rw [hnil])).eq_nil
          · exact fun hnil => hnone (hperm.symm.trans (by rw [hnil])).eq_nil
          · exact hkept x ((sort_perm kept).mem_iff.mp hx)
          · exact hleft x (hperm.mem_iff.mp hx)
        exact (sort_perm kept).symm.trans (hsorted ▸ hperm)
      · exact fun hperm => ⟨sort kept, (sort_perm kept).trans hperm, rfl⟩

/-- When the two spellings of a clause are the same. -/
theorem reportedName_eq_iff {x t : Text} (hpoint : '.' ∉ plainClause x) :
    reportedName l.source.text x = l.base ++ ['.'] ++ t ↔
      l.source.text.getLast? ≠ some '.' ∧ l.gap.head? = some ' ' ∧ plainClause x = t := by
  rw [reportedName, base]
  by_cases hends : l.source.text.getLast? = some '.'
  · rw [if_pos hends]
    refine iff_of_false (fun h => hpoint ?_) fun h => h.1 hends
    -- The rule puts a point behind a module that ends in one.
    rw [List.append_assoc, List.append_assoc] at h
    rw [List.append_cancel_left h]
    simp
  · rw [if_neg hends]
    obtain ⟨c, cs, hgap⟩ := List.exists_cons_of_ne_nil (l.source_ends.resolve_right hends)
    by_cases hspace : c = ' '
    · simp [hgap, hspace, hends]
    · refine iff_of_false (fun h => ?_) fun h => hspace (by simpa [hgap] using h.2.1)
      -- Another blank counts as part of the module.
      have hblank : isBlank c = true := l.isBlank_gap c (by simp [hgap])
      rw [List.append_assoc, List.append_assoc, List.append_assoc] at h
      have hrest := List.append_cancel_left h
      rw [hgap, List.takeWhile_cons_of_pos (by simpa using hspace), List.cons_append] at hrest
      obtain ⟨rfl, -⟩ := List.cons.inj hrest
      revert hblank
      decide

end NamesLine

/-- The clauses that are left are those that are not reported, exactly if a blank follows `from` and
each reported clause is spelled in its report as in the line: the module does not end in a point, a
space follows it, the clause is plain, and no other clause is the same. -/
theorem filterFrom_drops_reported_iff (l : NamesLine) (hnames : ∀ x ∈ l.bare, IsNameClause x)
    (himport : hasWord importWord l.source.text = false)
    (hfrom : hasWord fromWord l.source.text = false) {chosen left : List Text}
    (hsplit : (chosen ++ left).Perm l.bare) :
    (∃ result, filterFrom l.line (chosen.map (reportedName l.source.text)) = .ok result ∧
        l.Leaves left result) ↔
      l.lead ≠ [] ∧ ∀ x ∈ chosen, x ∉ left ∧ l.source.text.getLast? ≠ some '.' ∧
        l.gap.head? = some ' ' ∧ plainClause x = x := by
  by_cases hlead : l.lead = []
  · rw [l.filterFrom_line_eq_error hlead himport hfrom]
    refine iff_of_false ?_ fun h => h.1 hlead
    rintro ⟨result, hresult, -⟩
    contradiction
  have hbare {x : Text} (hx : x ∈ chosen ∨ x ∈ left) : x ∈ l.bare :=
    hsplit.mem_iff.mp (List.mem_append.mpr hx)
  have herase : ∀ x ∈ l.bare, Text.erase (l.base ++ ['.']) x = x :=
    fun x hx => erase_of_not_mem (c := '.') (by simp) (hnames x hx).no_point
  have hdropped (t : Text) : (!(chosen.map (reportedName l.source.text)).contains
      (l.base ++ ['.'] ++ t)) = false ↔
      ∃ y ∈ chosen, l.source.text.getLast? ≠ some '.' ∧ l.gap.head? = some ' ' ∧
        plainClause y = t := by
    rw [Bool.not_eq_false', List.contains_iff_mem, List.mem_map]
    refine exists_congr fun y => and_congr_right fun hy => ?_
    exact l.reportedName_eq_iff (hnames y (hbare (Or.inl hy))).point_not_mem_plainClause
  have hkept : ∀ x ∈ l.kept (chosen.map (reportedName l.source.text)), IsClause x :=
    fun x hx => l.isClause_of_mem_bare (List.mem_filter.mp hx).1
  have hleft : ∀ x ∈ left, IsClause x := fun x hx => l.isClause_of_mem_bare (hbare (Or.inr hx))
  rw [l.filterFrom_line hlead himport _ herase]
  simp only [Except.ok.injEq, exists_eq_left', ne_eq, hlead, not_false_eq_true, true_and]
  rw [l.leaves_iff hkept hleft, NamesLine.kept, filter_perm_iff hsplit]
  simp only [← Bool.not_eq_false, hdropped]
  constructor
  · rintro ⟨hchosen, hleft⟩ x hx
    obtain ⟨y, hy, hends, hspace, hplain⟩ := hchosen x hx
    refine ⟨fun hmem => hleft x hmem ⟨y, hy, hends, hspace, hplain⟩, hends, hspace, ?_⟩
    rw [← hplain]
    exact (hnames y (hbare (Or.inl hy))).plainClause_plainClause
  · intro h
    constructor
    · intro x hx
      exact ⟨x, hx, (h x hx).2⟩
    · rintro x hx ⟨y, hy, -, -, hplain⟩
      apply (h y hy).1
      rwa [← (h y hy).2.2.2, hplain]

/-- Two names of the package around. -/
def fromParent : NamesLine :=
  .spaced { points := 1, path := [], some_part := Or.inl (by decide), identifiers := by simp }
    [" a".toList, " b".toList] (by decide) (by decide) (by decide)

/-- The same names of another module. -/
def fromModule : NamesLine :=
  .spaced (.single ['m'] isIdentifier_m) [" a".toList, " b".toList]
    (by decide) (by decide) (by decide)

theorem isNameClause_a_b : ∀ x ∈ ["a".toList, "b".toList], IsNameClause x := by
  have ha : words "a".toList = ["a".toList] := by decide
  have hb : words "b".toList = ["b".toList] := by decide
  intro x hx
  rw [List.mem_cons, List.mem_singleton] at hx
  rcases hx with rfl | rfl
  · exact .name ha (isIdentifier_singleton (by decide))
  · exact .name hb (isIdentifier_singleton (by decide))

theorem name_of_parent_stays :
    (fromParent.line = "from . import a, b\n".toList ∧
      ["a".toList].map (reportedName fromParent.source.text) = [".a".toList] ∧
      filterFrom fromParent.line [".a".toList] = .ok "from . import a, b\n".toList ∧
      ¬∃ result, filterFrom fromParent.line
        (["a".toList].map (reportedName fromParent.source.text)) = .ok result ∧
          fromParent.Leaves ["b".toList] result) ∧
    fromModule.line = "from m import a, b\n".toList ∧
      ∃ result, filterFrom fromModule.line
        (["a".toList].map (reportedName fromModule.source.text)) = .ok result ∧
          fromModule.Leaves ["b".toList] result := by
  have hparent : fromParent.bare = ["a".toList, "b".toList] := by decide
  have hmodule : fromModule.bare = ["a".toList, "b".toList] := by decide
  refine ⟨⟨by decide, by decide, by cbv, ?_⟩, by decide, ?_⟩
  · rw [filterFrom_drops_reported_iff fromParent (hparent ▸ isNameClause_a_b) (by decide)
      (by decide) (by decide)]
    intro h
    exact (h.2 "a".toList (by simp)).2.1 (by decide)
  · rw [filterFrom_drops_reported_iff fromModule (hmodule ▸ isNameClause_a_b) (by decide)
      (by decide) (by decide)]
    refine ⟨by decide, fun x hx => ?_⟩
    rw [List.mem_singleton.mp hx]
    decide

end Pruner.Import
