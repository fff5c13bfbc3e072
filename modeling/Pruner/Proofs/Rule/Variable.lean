import Pruner.Rule.Variable
import Pruner.Proofs.Fix.Round
import Pruner.Proofs.Text.Blank
import Pruner.Proofs.Text.Pieces

namespace Pruner.Variable

open Pruner.Text Pruner.Line

/-- A line that assigns to one target, with the value it assigns. -/
def IsAssignment (line rest : Text) : Prop :=
  ∃ target, pieces (· == '=') line = [target, rest] ∧ ',' ∉ target

/-- An assignment is its target, the equals sign and its value. -/
theorem IsAssignment.split {line rest : Text} (h : IsAssignment line rest) :
    ∃ target, line = target ++ '=' :: rest := by
  obtain ⟨target, hpieces, -⟩ := h
  refine ⟨target, ?_⟩
  rw [pieces_eq_splitOnP, ← List.splitOn_eq_splitOnP] at hpieces
  have hjoin : List.intercalate ['='] (line.splitOn '=') = line := List.intercalate_splitOn '='
  rw [hpieces] at hjoin
  rw [← hjoin]
  simp [List.intercalate]

/-- The text of a line alone makes it lose a name: it is an `except` clause with a name, or an
assignment that looks complete. -/
def Fits (line previous : Text) : Prop :=
  (dropExceptName? line).isSome ∨ isPartial line previous = false ∧ ∃ rest, IsAssignment line rest

theorem splitNewline_append (line : Text) :
    (splitNewline line).1 ++ (splitNewline line).2 = line := by
  rw [splitNewline]
  split
  · rename_i hend
    obtain ⟨s, rfl⟩ := List.isSuffixOf_iff_suffix.mp hend
    simp
  · simp

/-- What stands before the name of an `except` clause, read from the end. -/
theorem beforeAsName?_eq_some {body front : Text} (h : beforeAsName? body = some front) :
    ∃ name : Text, body = front ++ " as ".toList ++ name ++ [':'] := by
  rw [beforeAsName?] at h
  split at h
  · rename_i rest hrev
    dsimp only at h
    rw [drop_length_takeWhile] at h
    split at h
    · simp at h
    · split at h
      · rename_i hstart
        obtain ⟨tail, htail⟩ := List.isPrefixOf_iff_prefix.mp hstart
        have hfront : tail.reverse = front := by
          rw [← htail] at h
          simpa using h
        obtain ⟨name, hrest⟩ : ∃ name : Text, rest = name ++ (" sa ".toList ++ tail) := by
          refine ⟨rest.takeWhile isWord, ?_⟩
          rw [htail]
          exact List.takeWhile_append_dropWhile.symm
        refine ⟨name.reverse, ?_⟩
        rw [← List.reverse_reverse body, hrev, hrest, ← hfront]
        simp
      · simp at h
  · simp at h

/-- An `except` clause loses the word `as` and a name, and keeps something visible before that. -/
theorem exists_front_of_dropExceptName? {line piece : Text} (h : dropExceptName? line = some piece) :
    ∃ front name newline : Text, line = front ++ " as ".toList ++ name ++ [':'] ++ newline ∧
      piece = front ++ [':'] ++ newline ∧ trimLeft front ≠ [] := by
  rw [dropExceptName?] at h
  have hline := splitNewline_append line
  generalize splitNewline line = parts at h hline
  obtain ⟨body, newline⟩ := parts
  dsimp only at h hline
  split at h
  · simp at h
  · rename_i front hfront
    split at h
    · rename_i hclause
      obtain ⟨name, rfl⟩ := beforeAsName?_eq_some hfront
      refine ⟨front, name, newline, hline.symm, (Option.some.inj h).symm, ?_⟩
      intro hnil
      rw [hnil] at hclause
      simp [startsWith] at hclause
    · simp at h

theorem dropExceptName?_eq_some {line piece : Text} (h : dropExceptName? line = some piece) :
    ∃ front name newline : Text, line = front ++ " as ".toList ++ name ++ [':'] ++ newline ∧
      piece = front ++ [':'] ++ newline := by
  obtain ⟨front, name, newline, hline, hpiece, -⟩ := exists_front_of_dropExceptName? h
  exact ⟨front, name, newline, hline, hpiece⟩

/-- What becomes of a line with an unused variable. -/
theorem filterUnused_cases {line previous piece : Text}
    (h : filterUnused line previous = .ok piece) :
    dropExceptName? line = some piece ∨
    (∃ rest, IsAssignment line rest ∧ isPartial line previous = false ∧
      (piece = passFor line ∨ piece = indentation line ++ trimLeft rest)) ∨
    ¬Fits line previous ∧ piece = line := by
  rw [filterUnused] at h
  cases hexcept : dropExceptName? line with
  | some clause =>
    simp only [hexcept, Except.ok.injEq] at h
    exact Or.inl (congrArg some h)
  | none =>
    refine Or.inr ?_
    simp only [hexcept] at h
    split at h
    · rename_i hpartial
      refine Or.inr ⟨?_, (Except.ok.inj h).symm⟩
      simp [Fits, hexcept, hpartial]
    · rename_i hwhole
      rw [Bool.not_eq_true] at hwhole
      split at h
      · rename_i target rest hpieces
        split at h
        · rename_i hcomma
          refine Or.inr ⟨?_, (Except.ok.inj h).symm⟩
          simpa [Fits, hexcept, IsAssignment, hpieces] using fun _ => hcomma
        · rename_i hcomma
          refine Or.inl ⟨rest, ⟨target, hpieces, by simpa using hcomma⟩, hwhole, ?_⟩
          obtain ⟨found, -, h⟩ := Fix.bind_eq_ok.mp h
          split at h
          · exact Or.inl (Except.ok.inj h).symm
          · exact Or.inr (Except.ok.inj h).symm
      · rename_i hpieces
        refine Or.inr ⟨?_, (Except.ok.inj h).symm⟩
        simp only [Fits, hexcept, IsAssignment, Option.isSome_none, Bool.false_eq_true, false_or,
          not_and, not_exists]
        intro _ rest target heq
        exact absurd heq (hpieces target rest)

theorem countP_passFor {q : Char → Bool} (hq : ∀ c, isBlank c = true → q c = false)
    (line : Text) : (passFor line).countP q = "pass".toList.countP q := by
  rw [passFor, List.countP_append, List.countP_append,
    countP_eq_zero_of_blank hq fun c => isBlank_of_mem_indentation,
    countP_eq_zero_of_blank hq fun c => isBlank_of_mem_ending]
  omega

/-- The value of an assignment, put in its place, has no other characters than the line. -/
theorem countP_value_le {line rest : Text} (h : IsAssignment line rest) {q : Char → Bool}
    (hq : ∀ c, isBlank c = true → q c = false) :
    (indentation line ++ trimLeft rest).countP q ≤ line.countP q := by
  obtain ⟨target, hpieces, -⟩ := h
  rw [List.countP_append, countP_eq_zero_of_blank hq fun c => isBlank_of_mem_indentation,
    Nat.zero_add]
  have hrest : rest.Sublist line := piece_sublist (by rw [hpieces]; simp)
  exact ((List.dropWhile_sublist _).trans hrest).countP_le

/-- An assignment loses its only equals sign. -/
theorem equals_assignment {line rest : Text} (h : IsAssignment line rest) :
    line.countP (· == '=') = 1 ∧ (indentation line ++ trimLeft rest).countP (· == '=') = 0 := by
  obtain ⟨target, hpieces, -⟩ := h
  constructor
  · have hlen := length_pieces (· == '=') line
    rw [hpieces] at hlen
    simpa using hlen
  · have hrest : ∀ c ∈ rest, (c == '=') = false := not_mem_separator (by rw [hpieces]; simp)
    rw [List.countP_append, countP_eq_zero_of_blank (beq_eq_false_of_isBlank (by decide))
      fun c => isBlank_of_mem_indentation, Nat.zero_add, List.countP_eq_zero]
    intro c hc
    simp [hrest c ((List.dropWhile_sublist _).subset hc)]

/-- A line changes exactly if its text fits. -/
theorem filterUnused_ne_iff {line previous piece : Text}
    (h : filterUnused line previous = .ok piece) : piece ≠ line ↔ Fits line previous := by
  rcases filterUnused_cases h with hexcept | ⟨rest, hassign, hwhole, hpiece⟩ | ⟨hnot, rfl⟩
  · refine iff_of_true ?_ (Or.inl (by simp [hexcept]))
    obtain ⟨front, name, newline, rfl, rfl⟩ := dropExceptName?_eq_some hexcept
    intro hsame
    have hlen := congrArg List.length hsame
    simp at hlen
    omega
  · refine iff_of_true ?_ (Or.inr ⟨hwhole, rest, hassign⟩)
    rintro rfl
    obtain ⟨hone, hzero⟩ := equals_assignment hassign
    rcases hpiece with hpiece | hpiece
    · rw [hpiece, countP_passFor (beq_eq_false_of_isBlank (by decide))] at hone
      simp at hone
    · rw [← hpiece] at hzero
      omega
  · exact iff_of_false (fun hne => hne rfl) hnot

end Pruner.Variable
