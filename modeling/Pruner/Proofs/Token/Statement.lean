import Pruner.Proofs.Token.Outline

namespace Pruner.Token

open Pruner.Text

/-- The blanks in front of a line that count for its column. -/
def margin (line : Text) : Text :=
  line.takeWhile isInnerBlank

/-- A line without its margin. -/
def content (line : Text) : Text :=
  line.dropWhile isInnerBlank

def column (line : Text) : Nat :=
  (measureIndent 0 line).1

/-- A line that is neither blank nor a comment. -/
def HasStatement (line : Text) : Prop :=
  ∃ c ∈ (content line).head?, c ≠ '#' ∧ c ≠ '\r' ∧ c ≠ '\n'

/-- The column of the innermost block. -/
def innermost (columns : List Nat) : Nat :=
  columns.headD 0

/-- The tokens for the blocks that a line opens or closes. -/
def blockTokens (row : Nat) (line : Text) (columns : List Nat) : List Token :=
  if column line > innermost columns then [⟨.indent, margin line, row, line⟩]
  else List.replicate (closeBlocks (column line) columns).2 ⟨.dedent, [], row, line⟩

/-- The columns of the open blocks after a line has opened or closed some. -/
def blockColumns (line : Text) (columns : List Nat) : List Nat :=
  if column line > innermost columns then column line :: (closeBlocks (column line) columns).1
  else (closeBlocks (column line) columns).1

theorem margin_append_content (line : Text) : margin line ++ content line = line :=
  List.takeWhile_append_dropWhile

theorem content_content (line : Text) : content (content line) = content line :=
  List.dropWhile_idempotent ..

theorem measureIndent_eq (n : Nat) (line : Text) :
    measureIndent n line = ((measureIndent n (margin line)).1, content line) := by
  induction line generalizing n with
  | nil => rfl
  | cons c cs ih =>
    rw [measureIndent, margin, content, List.takeWhile_cons, List.dropWhile_cons]
    by_cases hblank : isInnerBlank c = true
    · rw [if_pos hblank, if_pos hblank, measureIndent]
      simp only [isInnerBlank, Bool.or_eq_true, beq_iff_eq] at hblank
      rcases hblank with (rfl | rfl) | rfl
      · exact ih (n + 1)
      · exact ih ((n / 8 + 1) * 8)
      · exact ih 0
    · rw [if_neg hblank, if_neg hblank]
      simp only [isInnerBlank, Bool.or_eq_true, beq_iff_eq, not_or] at hblank
      simp [hblank, measureIndent]

/-- The column of a line is that of its margin. -/
theorem column_eq_of_margin_eq {a b : Text} (h : margin a = margin b) : column a = column b := by
  rw [column, column, measureIndent_eq, measureIndent_eq 0 b, h]

theorem take_length_sub_content (line : Text) :
    line.take (line.length - (content line).length) = margin line := by
  have hlen := congrArg List.length (margin_append_content line)
  rw [List.length_append] at hlen
  have hmargin : line.length - (content line).length = (margin line).length := by omega
  rw [hmargin]
  conv_lhs => arg 2; rw [← margin_append_content line]
  exact List.take_left

theorem drop_length_sub_content (line : Text) :
    line.drop (line.length - (content line).length) = content line := by
  have hsplit := List.take_append_drop (line.length - (content line).length) line
  rw [take_length_sub_content] at hsplit
  exact List.append_cancel_left (hsplit.trans (margin_append_content line).symm)

theorem blockTokens_row (row : Nat) (line : Text) (columns : List Nat) :
    ∀ t ∈ blockTokens row line columns, t.row = row ∧ t.line = line := by
  intro t ht
  rw [blockTokens] at ht
  split at ht
  · rw [List.mem_singleton.mp ht]
    exact ⟨rfl, rfl⟩
  · rw [List.eq_of_mem_replicate ht]
    exact ⟨rfl, rfl⟩

/-- What a line at which a statement may start does. -/
theorem scanStatement_cases (s : State) (row : Nat) (line : Text) :
    content line = [] ∧ scanStatement s row line = .stop ∨
    (content line ≠ [] ∧ ¬HasStatement line ∧ ∃ tokens, scanStatement s row line = .more tokens s ∧
      ∀ t ∈ tokens, isFiller t.kind = true ∧ t.row = row ∧ t.line = line) ∨
    HasStatement line ∧ scanStatement s row line =
      if column line < innermost s.columns ∧ column line ∉ s.columns then .fail .unknownDedent
      else .more (blockTokens row line s.columns ++ (scanLine row line 0 s.depth (content line)).1)
        ({ s with columns := blockColumns line s.columns }.after
          (scanLine row line 0 s.depth (content line)).2) := by
  rw [scanStatement, measureIndent_eq]
  have hcolumn : (measureIndent 0 (margin line)).1 = column line := by
    rw [column, measureIndent_eq 0 line]
  rw [hcolumn]
  dsimp only
  rw [scanLine_drop, take_length_sub_content, drop_length_sub_content]
  cases hbody : content line with
  | nil => exact Or.inl ⟨rfl, rfl⟩
  | cons c cs =>
    refine Or.inr ?_
    dsimp only
    split
    · rename_i hhash
      refine Or.inl ⟨by simp, ?_, _, rfl, by simp [isFiller]⟩
      simp_all [HasStatement]
    · rename_i hhash
      split
      · rename_i hend
        refine Or.inl ⟨by simp, ?_, _, rfl, by simp [isFiller]⟩
        simp only [HasStatement, hbody, List.head?_cons, Option.mem_some_iff, exists_eq_left']
        simp only [Bool.or_eq_true, beq_iff_eq] at hend
        tauto
      · rename_i hend
        refine Or.inr ⟨⟨c, by simp [hbody], ?_⟩, ?_⟩
        · simpa using And.intro hhash hend
        · simp only [blockTokens, blockColumns, innermost, Bool.and_eq_true, decide_eq_true_eq,
            Bool.not_eq_true', List.contains_eq_mem, decide_eq_false_iff_not]
          congr

end Pruner.Token
