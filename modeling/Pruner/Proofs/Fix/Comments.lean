import Pruner.Proofs.Fix.Continuation
import Pruner.Proofs.Fix.Run
import Pruner.Proofs.Rule.ImportPieces

namespace Pruner.Fix

open Pruner.Text Pruner.Line Pruner.Import Pruner.Variable Pruner.StarImport Pruner.Token

def hasHash (line : Text) : Bool :=
  line.contains '#'

/-- The names that come from a star import have neither a `#` nor a backslash. -/
def PlainNames (ds : List Diagnostic) : Prop :=
  ∀ usage ∈ Diagnostic.starUsages ds, '#' ∉ usage.2.1 ∧ '\\' ∉ usage.2.1

instance (ds : List Diagnostic) : Decidable (PlainNames ds) :=
  inferInstanceAs (Decidable (∀ usage ∈ Diagnostic.starUsages ds, _))

/-- A piece that has no `#`, and that has a line feed if its line has one. Only if nothing but
blanks is left, the line feed can be gone. -/
structure Plain (line piece : Text) : Prop where
  no_hash : '#' ∉ piece
  ended : EndsLine line → EndsLine piece ∨ (∀ c ∈ piece, isBlank c = true) ∧ '\n' ∉ piece

section

variable {line piece : Text}

theorem pick_of_no_hash (h : '#' ∉ line) : pick hasHash trimLeft line = 0 := by
  apply pick_of_not
  simpa [hasHash] using h

theorem lineSum_of_no_hash (h : '#' ∉ piece) : lineSum (pick hasHash trimLeft) piece = 0 := by
  apply lineSum_eq_zero
  intro l hl
  apply pick_of_no_hash
  intro hmem
  rw [← lines_flatten piece] at h
  exact h (List.mem_flatten.mpr ⟨l, hl, hmem⟩)

/-- Blanks in front make no difference to what is read off the first line. -/
theorem lineSum_blank_append {a : Text} (ha : ∀ c ∈ a, isBlank c = true) (hnewline : '\n' ∉ a)
    (t : Text) :
    lineSum (pick hasHash trimLeft) (a ++ t) = lineSum (pick hasHash trimLeft) t := by
  have hhash : '#' ∉ a := not_mem_of_blank ha (by decide)
  cases hls : lines t with
  | nil =>
    have hnil : t = [] := by rw [← lines_flatten t, hls, List.flatten_nil]
    rw [hnil, List.append_nil, lineSum_of_no_hash hhash, lineSum_nil]
  | cons l ls =>
    have hpick : pick hasHash trimLeft (a ++ l) = pick hasHash trimLeft l := by
      have hsame : hasHash (a ++ l) = hasHash l := by
        simp [hasHash, hhash]
      rw [pick, pick, hsame, trimLeft_append_of_blank ha]
    rw [lineSum, lines_append_left hnewline hls, lineSum, hls, List.map_cons, hpick, List.map_cons]

theorem Plain.standsFor (h : Plain line piece) (hline : '#' ∉ line) :
    StandsFor (pick hasHash trimLeft) line piece := by
  rintro rest (he | rfl)
  · rw [pick_of_no_hash hline, zero_add]
    rcases h.ended he with hpiece | ⟨hblank, hnewline⟩
    · rw [lineSum_append (Or.inr hpiece), lineSum_of_no_hash h.no_hash, zero_add]
    · exact lineSum_blank_append hblank hnewline rest
  · rw [List.append_nil, lineSum_of_no_hash h.no_hash, pick_of_no_hash hline]
    rfl

theorem Plain.refl (hline : '#' ∉ line) : Plain line line :=
  ⟨hline, Or.inl⟩

theorem Plain.nil (line : Text) : Plain line [] :=
  ⟨by simp, fun _ => Or.inr (by simp)⟩

theorem plain_passFor (hline : '#' ∉ line) : Plain line (passFor line) := by
  have hadded : '#' ∉ addedChars := by decide
  constructor
  · intro hmem
    rcases mem_of_mem_passFor hmem with hmem | hmem
    · exact hline hmem
    · exact hadded hmem
  · exact fun he => Or.inl (he.append_ending _)

theorem plain_import {previous : Text} {unused allowed : List Text} {removeAll : Bool}
    (hline : '#' ∉ line)
    (h : Import.filterUnused line unused removeAll allowed previous = .ok piece) :
    Plain line piece := by
  have hadded : '#' ∉ addedChars := by decide
  constructor
  · intro hmem
    rcases mem_of_filterUnused h hmem with hmem | hmem
    · exact hline hmem
    · exact hadded hmem
  · exact fun he => Or.inl (endsLine_filterUnused h he)

/-- The value of an assignment, put in its place, ends like the line unless it is blank. -/
theorem plain_value {rest : Text} (hl : IsLine line) (hline : '#' ∉ line)
    (h : IsAssignment line rest) : Plain line (indentation line ++ trimLeft rest) := by
  obtain ⟨target, hsplit⟩ := h.split
  have hcut : rest.takeWhile isBlank ++ trimLeft rest = rest := List.takeWhile_append_dropWhile
  constructor
  · intro hmem
    apply hline
    rcases List.mem_append.mp hmem with hmem | hmem
    · exact mem_of_mem_indentation hmem
    · rw [hsplit, ← hcut]
      simp [hmem]
  · intro he
    by_cases hblank : trimLeft rest = []
    · rw [hblank, List.append_nil]
      exact Or.inr ⟨fun c => isBlank_of_mem_indentation, newline_not_mem_indentation hl⟩
    · have hlast : line = target ++ '=' :: rest.takeWhile isBlank ++ trimLeft rest := by
        rw [hsplit, List.append_assoc, List.cons_append, hcut]
      rw [EndsLine, hlast, List.getLast?_append_of_ne_nil _ hblank] at he
      refine Or.inl ?_
      rwa [EndsLine, List.getLast?_append_of_ne_nil _ hblank]

theorem plain_except (hline : '#' ∉ line) (h : dropExceptName? line = some piece) :
    Plain line piece := by
  obtain ⟨front, name, newline, rfl, rfl⟩ := dropExceptName?_eq_some h
  constructor
  · simp only [List.mem_append, not_or] at hline ⊢
    exact ⟨⟨hline.1.1.1.1, hline.1.2⟩, hline.2⟩
  · intro he
    refine Or.inl ?_
    cases newline with
    | nil =>
      rw [EndsLine, List.append_nil, List.getLast?_append_of_ne_nil _ (by simp)] at he
      simp at he
    | cons c cs =>
      rw [EndsLine, List.getLast?_append_of_ne_nil _ (by simp)] at he ⊢
      exact he

theorem plain_variable {previous : Text} (hl : IsLine line) (hline : '#' ∉ line)
    (h : Variable.filterUnused line previous = .ok piece) : Plain line piece := by
  rcases Variable.filterUnused_cases h with
    hexcept | ⟨rest, hassign, -, rfl | rfl⟩ | ⟨-, rfl⟩
  · exact plain_except hline hexcept
  · exact plain_passFor hline
  · exact plain_value hl hline hassign
  · exact Plain.refl hline

theorem plain_expand {names : List Text} (hnames : ∀ name ∈ names, '#' ∉ name ∧ '\\' ∉ name)
    (hline : '#' ∉ line) (h : expand line names = .ok piece) : Plain line piece := by
  rw [expand_of_plain (fun name hname => (hnames name hname).2) h]
  have hplain := not_mem_names (by decide) fun name hname => (hnames name hname).1
  constructor
  · intro hmem
    obtain ⟨c, hc, hmem⟩ := List.mem_flatMap.mp hmem
    split at hmem
    · exact hplain hmem
    · rw [List.mem_singleton.mp hmem] at hline
      exact hline hc
  · intro he
    obtain ⟨s, rfl⟩ := List.getLast?_eq_some_iff.mp he
    refine Or.inl ?_
    rw [replaceStars, List.flatMap_append]
    exact endsLine_append _

/-- No rule brings a `#` into a line that has none. -/
theorem plain_editLine {options : Options} {m : Marks} {number : Nat} {before : Text}
    (hl : IsLine line) (hline : '#' ∉ line)
    (hnames : ∀ name ∈ m.starNames, '#' ∉ name ∧ '\\' ∉ name)
    (h : editLine options m number before line = .ok piece) : Plain line piece := by
  rw [editLine_eq, if_neg hline] at h
  split at h
  · exact plain_import hline h
  · exact plain_variable hl hline h
  · rw [← Except.ok.inj h, DuplicateKey.filterMarked]
    split
    · exact Plain.nil line
    · exact Plain.refl hline
  · exact plain_expand hnames hline h
  · rw [← Except.ok.inj h]
    exact Plain.refl hline

end

/-- Whatever is removed or expanded, the lines with a `#` stay in their order, and they stay the
same up to the blanks in front. -/
theorem fixCode_keeps_hash_lines {options : Options} {check : Nat → Text → List Diagnostic}
    {rounds : Nat} {source result : Text}
    (hchecks : ∀ index current,
      (fixCode options check rounds source).passes[index]? = some current →
        PlainNames (check index current))
    (h : (fixCode options check rounds source).outcome = .done result) :
    ((lines result).filter hasHash).map trimLeft =
      ((lines source).filter hasHash).map trimLeft := by
  apply map_filter_lines_eq
  apply lineSum_fixCode _ _ h
  · intro line hpass
    apply pick_of_no_hash
    intro hmem
    have hnone : '#' ∉ passWord := by decide
    apply hnone
    rw [← hpass]
    exact mem_trim hmem (by decide)
  · intro index current hcurrent m hm i line before piece hline hpiece
    have hl : IsLine line := (lined_lines current).line line (List.mem_of_getElem? hline)
    by_cases hhash : '#' ∈ line
    · rw [editLine_eq, if_pos hhash] at hpiece
      rw [← Except.ok.inj hpiece]
      exact StandsFor.refl hl
    · have hnames : ∀ name ∈ m.starNames, '#' ∉ name ∧ '\\' ∉ name := by
        intro name hname
        rw [(marks_eq_ok.mp hm).2.2.2.1, List.mem_map] at hname
        obtain ⟨usage, husage, rfl⟩ := hname
        exact hchecks index current hcurrent usage husage
      exact (plain_editLine hl hhash hnames hpiece).standsFor hhash

/-- A star is expanded, and of an assignment only the indentation is left, in front of a comment. -/
theorem fixCode_keeps_hash_lines_merged :
    (fixCode { removeUnusedVariables := true, expandStarImports := true }
      (fun index _ => if index = 0 then
          [⟨1, .starImport "lib".toList⟩, ⟨1, .starUsage "p".toList "lib".toList⟩,
            ⟨2, .unusedVariable "x".toList⟩]
        else [])
      3 "from lib import *\n    x =\n# x\n".toList).outcome =
      .done "from lib import p\n    # x\n".toList ∧
    ((lines "from lib import p\n    # x\n".toList).filter hasHash).map trimLeft =
      ((lines "from lib import *\n    x =\n# x\n".toList).filter hasHash).map trimLeft := by
  refine (and_iff_left_of_imp fun hdone => fixCode_keeps_hash_lines ?_ hdone).mpr ?_
  · intro index current _
    cases index with
    | zero => decide
    | succ index => exact fun usage husage => absurd husage (by simp [Diagnostic.starUsages])
  · decide +kernel

end Pruner.Fix
