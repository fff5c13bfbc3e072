import Pruner.Proofs.Import.Spacing

namespace Pruner.Import

open Pruner.Text Pruner.Line

/-- A physical line with one clause: indentation, word, clause and blanks. -/
def IsOwnLine (indent clause l : Text) : Prop :=
  ∃ blanks : Text, (∀ c ∈ blanks, isBlank c = true) ∧
    l = indent ++ "import ".toList ++ clause ++ blanks

namespace ModuleLine

variable (l : ModuleLine)

/-- A text with exactly one physical line for each clause. -/
def SeparatedIn (t : Text) : Prop :=
  ∃ order : List Text, order.Perm l.bare ∧ List.Forall₂ (IsOwnLine l.indent) order (lines t)

theorem forall₂_ownLines :
    List.Forall₂ (IsOwnLine l.indent) ((sort l.pieces).map trim)
      (ownLines l.line l.indent l.text) := by
  rw [ownLines, l.commaPieces_text, List.forall₂_map_left_iff, List.forall₂_map_right_iff,
    List.forall₂_same]
  intro x _
  exact ⟨ending l.line, fun _ => isBlank_of_mem_ending, rfl⟩

theorem separatedIn_of_lines {t : Text} (h : lines t = ownLines l.line l.indent l.text) :
    l.SeparatedIn t :=
  ⟨(sort l.pieces).map trim, l.perm_bare, h ▸ l.forall₂_ownLines⟩

theorem length_ownLines : (ownLines l.line l.indent l.text).length = l.clauses.length := by
  rw [← l.forall₂_ownLines.length_eq, l.perm_bare.length_eq, ClauseList.bare, List.length_map]

/-- A single clause stays on its line, with or without a line feed. -/
theorem lines_ownLines_single (h : l.clauses.length = 1) :
    lines (ownLines l.line l.indent l.text).flatten = ownLines l.line l.indent l.text := by
  obtain ⟨own, hown⟩ := List.length_eq_one_iff.mp (l.length_ownLines.trans h)
  obtain ⟨x, hx, rfl⟩ := mem_ownLines.mp (hown ▸ List.mem_singleton_self own)
  have hword : '\n' ∉ "import ".toList := by decide
  have hline : IsLine (l.indent ++ "import ".toList ++ trim x ++ ending l.line) := by
    apply l.isLine.append_ending
    · simp only [List.mem_append, not_or]
      exact ⟨⟨newline_not_mem_before l.isLine l.cut, hword⟩, newline_not_mem_clause l.isLine l.cut hx⟩
    · simp
  rw [hown, List.flatten_singleton, hline.lines_eq]

theorem comma_mem_line (h : l.clauses.length ≠ 1) : ',' ∈ l.line := by
  have hcount : l.text.countP (· == ',') + 1 = l.clauses.length := by
    rw [← Text.length_pieces, ← l.length_pieces, ← l.commaPieces_text]
    rfl
  have hpos : 0 < l.text.countP (· == ',') := by
    have := List.length_pos_of_ne_nil l.ne_nil
    omega
  obtain ⟨c, hc, hcomma⟩ := List.countP_pos_iff.mp hpos
  rw [beq_iff_eq.mp hcomma] at hc
  exact List.mem_append_right _ hc

theorem comma_not_mem_ownLines : ',' ∉ (ownLines l.line l.indent l.text).flatten := by
  have hword : ',' ∉ "import ".toList := by decide
  intro hmem
  obtain ⟨own, hown, hmem⟩ := List.mem_flatten.mp hmem
  obtain ⟨x, hx, rfl⟩ := mem_ownLines.mp hown
  simp only [List.mem_append] at hmem
  rcases hmem with ((hmem | hmem) | hmem) | hmem
  · exact not_mem_of_blank l.isBlank_indent (by decide) hmem
  · exact hword hmem
  · exact comma_not_mem_piece hx (mem_of_mem_trim hmem)
  · exact not_mem_of_blank (fun _ => isBlank_of_mem_ending) (by decide) hmem

theorem flatten_ownLines_ne_nil : (ownLines l.line l.indent l.text).flatten ≠ [] := by
  obtain ⟨own, rest, hown⟩ := List.exists_cons_of_ne_nil (ownLines_ne_nil l.line l.indent l.text)
  obtain ⟨x, -, rfl⟩ := mem_ownLines.mp (hown ▸ List.mem_cons_self)
  simp [hown]

/-- Without a line feed at the end of the line there is none between the clauses. -/
theorem newline_not_mem_ownLines (h : ¬EndsLine l.line) :
    '\n' ∉ (ownLines l.line l.indent l.text).flatten := by
  have hline : '\n' ∉ l.line := by
    rcases l.isLine.cases with ⟨s, -, hs⟩ | hnot
    · exact absurd (hs ▸ endsLine_append s) h
    · exact hnot
  have hadded : '\n' ∉ addedChars := by decide
  intro hmem
  rcases mem_of_mem_ownLines l.cut hmem with hmem | hmem
  · exact hline hmem
  · exact hadded hmem

end ModuleLine

/-- A line of modules stays as it is or is put on one line for each clause exactly if it ends with a
visible character or a line feed, or has only one clause. -/
theorem breakUp_separates_iff (l : ModuleLine) :
    (∃ t, breakUp l.line = .ok t ∧ (t = l.line ∨ l.SeparatedIn t)) ↔
      ending l.line = [] ∨ EndsLine l.line ∨ l.clauses.length = 1 := by
  rw [l.breakUp_line]
  by_cases hending : ending l.line = []
  · rw [if_pos hending]
    exact ⟨fun _ => Or.inl hending, fun _ => ⟨l.line, rfl, Or.inl rfl⟩⟩
  · rw [if_neg hending]
    constructor
    · rintro ⟨t, ht, hresult⟩
      obtain rfl := Except.ok.inj ht
      refine Or.inr ?_
      by_contra hnot
      rw [not_or] at hnot
      rcases hresult with hsame | ⟨order, hperm, hlines⟩
      · apply l.comma_not_mem_ownLines
        rw [hsame]
        exact l.comma_mem_line hnot.2
      · -- All clauses are on one physical line.
        rw [lines_of_not_mem l.flatten_ownLines_ne_nil (l.newline_not_mem_ownLines hnot.1)] at hlines
        apply hnot.2
        calc l.clauses.length = l.bare.length := (List.length_map ..).symm
          _ = order.length := hperm.length_eq.symm
          _ = 1 := hlines.length_eq
    · rintro (hnil | hends | hone)
      · exact absurd hnil hending
      · exact ⟨_, rfl, Or.inr (l.separatedIn_of_lines (lines_ownLines l.isLine hends l.cut))⟩
      · exact ⟨_, rfl, Or.inr (l.separatedIn_of_lines (l.lines_ownLines_single hone))⟩

/-- A line with a blank but no line feed at its end. -/
def blankEnded : ModuleLine where
  clauses := [" abc".toList, " math".toList]
  close := [' ']
  ne_nil := by decide
  inline := by decide
  word_ends := by decide
  close_blank := by decide
  close_last := by decide
  indent := []
  indent_margin := isMargin_nil

theorem clauses_run_together : blankEnded.line = "import abc, math ".toList ∧
    breakUp blankEnded.line = .ok "import abc import math ".toList ∧
    ¬∃ t, breakUp blankEnded.line = .ok t ∧ (t = blankEnded.line ∨ blankEnded.SeparatedIn t) := by
  refine ⟨by decide, by cbv, ?_⟩
  rw [breakUp_separates_iff, EndsLine]
  decide

end Pruner.Import
