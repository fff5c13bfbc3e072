import Pruner.Diff.Unified
import Pruner.Proofs.Text.Lines

/-!
Reading a unified diff as a patch. The lines of the diff are read one after the other, and applied
to the old lines as they are read. A patch that does not fit fails: if the old lines are not those
it names, if a hunk does not start where its header says, or if it has not as many lines.

A diff is read back as it was written: its lines, its numbers, the ranges and headers of its hunks.
-/
namespace Pruner.Diff

open Pruner.Text

/-- The line which says that the line before it has no line feed. -/
def noNewline : Text := "\\ No newline at end of file\n".toList

/-- The lines of a diff, without their line feeds where the next line says so. -/
def withoutNotes : List Text → List Text
  | [] => []
  | [line] => [line]
  | line :: next :: rest =>
    if next = noNewline then line.dropLast :: withoutNotes rest
    else line :: withoutNotes (next :: rest)

def readNumber? (t : Text) : Option Nat :=
  if t ≠ [] ∧ t.all Char.isDigit then some (Nat.ofDigitChars 10 t 0) else none

/-- A range of lines: how many lines come before it, and its length. -/
structure Range where
  start : Nat
  length : Nat
  deriving DecidableEq, Repr

/-- A range has the number of its first line, or, if it is empty, of the line before. -/
def Range.ofNumbers? (first length : Nat) : Option Range :=
  if length = 0 then some ⟨first, 0⟩
  else if first = 0 then none
  else some ⟨first - 1, length⟩

def readRange? (t : Text) : Option Range :=
  match pieces (· == ',') t with
  | [first] => do Range.ofNumbers? (← readNumber? first) 1
  | [first, length] => do Range.ofNumbers? (← readNumber? first) (← readNumber? length)
  | _ => none

/-- The old and the new range of a hunk, from its header. -/
def readHeader? (line : Text) : Option (Range × Range) :=
  match pieces (· == ' ') line with
  | [opening, old, new, closing] =>
    if opening = "@@".toList ∧ closing = "@@\n".toList ∧ old.head? = some '-' ∧
        new.head? = some '+' then do
      some (← readRange? old.tail, ← readRange? new.tail)
    else none
  | _ => none

/-- How far a patch has come: the old lines that are left, the new lines that were written, how many
old lines were passed, and how many old and new lines the current hunk still has. -/
structure Progress where
  left : List Text
  written : List Text
  passed : Nat
  oldDue : Nat
  newDue : Nat

namespace Progress

/-- Goes to the start of a hunk. The lines up to it stay. -/
def enter (p : Progress) (old new : Range) : Option Progress :=
  let skipped := old.start - p.passed
  if p.passed ≤ old.start ∧ skipped ≤ p.left.length ∧ p.written.length + skipped = new.start then
    some ⟨p.left.drop skipped, p.written ++ p.left.take skipped, old.start, old.length, new.length⟩
  else none

/-- Reads a line of a hunk. -/
def advance (p : Progress) (line : Text) : Option Progress :=
  match line, p.left, p.oldDue, p.newDue with
  | ' ' :: text, l :: left, old + 1, new + 1 =>
    if text = l then some ⟨left, p.written ++ [l], p.passed + 1, old, new⟩ else none
  | '-' :: text, l :: left, old + 1, new =>
    if text = l then some ⟨left, p.written, p.passed + 1, old, new⟩ else none
  | '+' :: text, left, old, new + 1 => some ⟨left, p.written ++ [text], p.passed, old, new⟩
  | _, _, _, _ => none

/-- Reads a line: after the end of a hunk a header, and inside a hunk one of its lines. -/
def step (p : Progress) (line : Text) : Option Progress :=
  if p.oldDue = 0 ∧ p.newDue = 0 then do
    let (old, new) ← readHeader? line
    p.enter old new
  else p.advance line

end Progress

/-- Applies a diff to the old lines. An empty diff changes nothing. -/
def patch? (diff : Text) (old : List Text) : Option (List Text) :=
  match withoutNotes (lines diff) with
  | [] => some old
  | first :: second :: rest =>
    if startsWith "--- ".toList first ∧ startsWith "+++ ".toList second then do
      let p ← rest.foldlM Progress.step ⟨old, [], 0, 0, 0⟩
      if p.oldDue = 0 ∧ p.newDue = 0 then some (p.written ++ p.left) else none
    else none
  | _ => none

section Notes

/-- A line as it stands in a diff, with the note if it lacks its line feed. -/
def noted (line : Text) : List Text :=
  if line.getLast? == some '\n' then [line] else [line ++ ['\n'], noNewline]

theorem finished_eq (line : Text) : finished line = (noted line).flatten := by
  have hnote : "\n\\ No newline at end of file\n".toList = '\n' :: noNewline := by decide
  rw [finished, noted, hnote]
  by_cases hend : (line.getLast? == some '\n') = true
  · rw [if_pos hend, if_pos hend, List.flatten_singleton]
  · rw [if_neg hend, if_neg hend, List.flatten_cons, List.flatten_singleton, List.append_assoc,
      List.singleton_append]

/-- A line of a diff starts with a mark, and the mark is not that of a note. -/
structure IsDiffLine (line : Text) : Prop where
  isLine : IsLine line
  mark : line.head? ≠ some '\\'

theorem withoutNotes_cons {line next : Text} {rest : List Text} (h : next ≠ noNewline) :
    withoutNotes (line :: next :: rest) = line :: withoutNotes (next :: rest) := by
  rw [withoutNotes, if_neg h]

variable {line : Text} {ls : List Text}

theorem noted_eq_cons (h : IsDiffLine line) :
    ∃ first rest, noted line = first :: rest ∧ first ≠ noNewline := by
  have hmark (t : Text) : line ++ t ≠ noNewline := by
    intro heq
    apply h.mark
    have hhead : (line ++ t).head? = line.head? :=
      List.head?_append_of_ne_nil line h.isLine.ne_nil
    rw [← hhead, heq]
    rfl
  rw [noted]
  split
  · refine ⟨line, [], rfl, ?_⟩
    simpa using hmark []
  · exact ⟨line ++ ['\n'], [noNewline], rfl, hmark _⟩

/-- The notes of a diff are read back as line feeds that are missing. -/
theorem withoutNotes_flatMap_noted (h : ∀ l ∈ ls, IsDiffLine l) :
    withoutNotes (ls.flatMap noted) = ls := by
  induction ls with
  | nil => rfl
  | cons line ls ih =>
    rw [List.forall_mem_cons] at h
    have hrest : ∀ t,
        withoutNotes (t :: ls.flatMap noted) = t :: withoutNotes (ls.flatMap noted) := by
      intro t
      cases ls with
      | nil => rfl
      | cons next ls =>
        obtain ⟨first, rest, hnoted, hfirst⟩ := noted_eq_cons (h.2 next (by simp))
        rw [List.flatMap_cons, hnoted, List.cons_append, withoutNotes_cons hfirst]
    rw [List.flatMap_cons, noted]
    split
    · rw [List.singleton_append, hrest, ih h.2]
    · rw [List.cons_append, List.singleton_append, withoutNotes, if_pos rfl, ih h.2,
        List.dropLast_concat]

/-- The text of a diff is cut into the lines it was written from. -/
theorem withoutNotes_lines (h : ∀ l ∈ ls, IsDiffLine l) :
    withoutNotes (lines (ls.flatMap finished)) = ls := by
  have htext : ls.flatMap finished = (ls.flatMap noted).flatten := by
    rw [List.flatMap_def, List.flatMap_def, List.flatten_flatten, List.map_map]
    congr 1
    exact List.map_congr_left fun l _ => finished_eq l
  have hlined : Lined (ls.flatMap noted) := by
    apply Lined.of_forall
    intro l hl
    obtain ⟨line, hline, hmem⟩ := List.mem_flatMap.mp hl
    have hisLine := (h line hline).isLine
    rw [noted] at hmem
    split at hmem
    · rename_i hend
      rw [List.mem_singleton.mp hmem]
      exact ⟨hisLine, beq_iff_eq.mp hend⟩
    · rename_i hend
      simp only [List.mem_cons, List.not_mem_nil, or_false] at hmem
      rcases hmem with rfl | rfl
      · have hnone : '\n' ∉ line := by
          rcases hisLine.cases with ⟨s, -, rfl⟩ | hnot
          · simp at hend
          · exact hnot
        exact ⟨isLine_append hnone, endsLine_append line⟩
      · exact ⟨⟨by decide, by decide⟩, rfl⟩
  rw [htext, lines_flatten_of_lined hlined, withoutNotes_flatMap_noted h]

end Notes

section Headers

theorem readNumber?_toDigits (n : Nat) : readNumber? (Nat.toDigits 10 n) = some n := by
  have hdigits : ∀ c ∈ Nat.toDigits 10 n, c.isDigit = true :=
    fun c hc => Nat.isDigit_of_mem_toDigits (by decide) (by decide) hc
  rw [readNumber?, if_pos ⟨Nat.toDigits_ne_nil, List.all_eq_true.mpr hdigits⟩,
    Nat.ofDigitChars_toDigits (by decide) (by decide)]

theorem not_mem_toDigits {c : Char} (hc : c.isDigit = false) (n : Nat) : c ∉ Nat.toDigits 10 n := by
  intro hmem
  rw [Nat.isDigit_of_mem_toDigits (by decide) (by decide) hmem] at hc
  contradiction

/-- How a range is written. -/
theorem range_cases (start length : Nat) :
    length = 1 ∧ range start length = Nat.toDigits 10 (start + 1) ∨
    length = 0 ∧ range start length = Nat.toDigits 10 start ++ ',' :: Nat.toDigits 10 0 ∨
    length ≠ 0 ∧
      range start length = Nat.toDigits 10 (start + 1) ++ ',' :: Nat.toDigits 10 length := by
  by_cases hone : length = 1
  · exact Or.inl ⟨hone, by simp [range, hone]⟩
  · by_cases hzero : length = 0
    · exact Or.inr (Or.inl ⟨hzero, by simp [range, hzero]⟩)
    · exact Or.inr (Or.inr ⟨hzero, by simp [range, hone, hzero]⟩)

/-- A range is read as it was written, with or without its length. -/
theorem readRange?_range (start length : Nat) :
    readRange? (range start length) = some ⟨start, length⟩ := by
  have hcomma (n : Nat) : ',' ∉ Nat.toDigits 10 n := not_mem_toDigits (by decide) n
  rcases range_cases start length with ⟨rfl, hrange⟩ | ⟨rfl, hrange⟩ | ⟨hzero, hrange⟩
  · rw [readRange?, hrange, pieces_of_not_mem (hcomma _)]
    simp [readNumber?_toDigits, Range.ofNumbers?]
  · rw [readRange?, hrange, pieces_separator (hcomma _), pieces_of_not_mem (hcomma _)]
    dsimp only
    rw [readNumber?_toDigits, readNumber?_toDigits]
    simp [Range.ofNumbers?]
  · rw [readRange?, hrange, pieces_separator (hcomma _), pieces_of_not_mem (hcomma _)]
    simp [readNumber?_toDigits, Range.ofNumbers?, hzero]

theorem not_mem_range {c : Char} (hc : c.isDigit = false) (hcomma : c ≠ ',') (start length : Nat) :
    c ∉ range start length := by
  have hnumber (n : Nat) : c ∉ Nat.toDigits 10 n := not_mem_toDigits hc n
  rcases range_cases start length with ⟨-, hrange⟩ | ⟨-, hrange⟩ | ⟨-, hrange⟩
  · rw [hrange]
    exact hnumber _
  all_goals
    rw [hrange, List.mem_append, List.mem_cons, not_or, not_or]
    exact ⟨hnumber _, hcomma, hnumber _⟩

/-- The header of a hunk is read as it was written. -/
theorem readHeader?_header (h : Hunk) :
    readHeader? h.header = some (⟨h.oldStart, h.old.length⟩, ⟨h.newStart, h.new.length⟩) := by
  have hspace (start length : Nat) : ' ' ∉ range start length :=
    not_mem_range (by decide) (by decide) start length
  have hheader : h.header = "@@".toList ++ ' ' :: (('-' :: range h.oldStart h.old.length) ++
      ' ' :: (('+' :: range h.newStart h.new.length) ++ ' ' :: "@@\n".toList)) := by
    unfold Hunk.header
    simp only [List.append_assoc]
    rfl
  have hpieces : pieces (· == ' ') h.header = ["@@".toList, '-' :: range h.oldStart h.old.length,
      '+' :: range h.newStart h.new.length, "@@\n".toList] := by
    have hmarked (mark : Char) (hmark : ' ' ≠ mark) (start length : Nat) :
        ' ' ∉ mark :: range start length := by
      rw [List.mem_cons, not_or]
      exact ⟨hmark, hspace start length⟩
    rw [hheader, pieces_separator (by decide), pieces_separator (hmarked '-' (by decide) _ _),
      pieces_separator (hmarked '+' (by decide) _ _), pieces_of_not_mem (by decide)]
  rw [readHeader?, hpieces]
  dsimp only
  rw [if_pos ⟨rfl, rfl, rfl, rfl⟩, List.tail_cons, List.tail_cons, readRange?_range,
    readRange?_range]
  rfl

theorem isDiffLine_header (h : Hunk) : IsDiffLine h.header := by
  have hnewline (start length : Nat) : '\n' ∉ range start length :=
    not_mem_range (by decide) (by decide) start length
  have hheader : h.header = ("@@ -".toList ++ range h.oldStart h.old.length ++ " +".toList ++
      range h.newStart h.new.length ++ " @@".toList) ++ ['\n'] := by
    unfold Hunk.header
    simp
  refine ⟨?_, ?_⟩
  · rw [hheader]
    apply isLine_append
    simp [hnewline]
  · simp [hheader]

end Headers

end Pruner.Diff
