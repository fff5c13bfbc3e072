import Pruner.Token.Scan
import Mathlib.Data.List.DropRight

namespace Pruner.Text

open Pruner.Line

/-- Whether no range of a table meets the numbers from `low` to `high`. -/
def avoids (table : List (Nat × Nat)) (low high : Nat) : Bool :=
  table.all fun r => r.2 < low || high < r.1

theorem inRanges_of_avoids {table : List (Nat × Nat)} {low high n : Nat}
    (h : avoids table low high = true) (hl : low ≤ n) (hh : n ≤ high) :
    inRanges table n = false := by
  rw [inRanges, List.any_eq_false]
  intro r hr
  have hgap := List.all_eq_true.mp h r hr
  simp only [Bool.or_eq_true, decide_eq_true_eq] at hgap
  simp only [Bool.and_eq_true, decide_eq_true_eq]
  omega

/-- The four gaps in the tables of letters and numbers where the blanks beyond ASCII lie. -/
theorem word_tables_avoid_blanks :
    ∀ gap ∈ [(0x80, 0xA9), (0x1680, 0x1680), (0x2000, 0x206F), (0x3000, 0x3000)],
      ∀ table ∈ [letterRanges, decimalRanges, letterNumberRanges, otherNumberRanges],
        avoids table gap.1 gap.2 = true := by
  decide +kernel

theorem isWord_of_gap {c : Char} (low high : Nat)
    (hgap : (low, high) ∈ [(0x80, 0xA9), (0x1680, 0x1680), (0x2000, 0x206F), (0x3000, 0x3000)])
    (hbig : 128 ≤ c.toNat) (hl : low ≤ c.toNat) (hh : c.toNat ≤ high) : isWord c = false := by
  have hout (table : List (Nat × Nat))
      (ht : table ∈ [letterRanges, decimalRanges, letterNumberRanges, otherNumberRanges]) :
      inRanges table c.toNat = false :=
    inRanges_of_avoids (word_tables_avoid_blanks (low, high) hgap table ht) hl hh
  rw [isWord, if_neg (by omega), hout _ (by simp), hout _ (by simp), hout _ (by simp),
    hout _ (by simp)]
  rfl

theorem isWord_eq_false_of_isBlank {c : Char} (h : isBlank c = true) : isWord c = false := by
  simp only [isBlank, Bool.or_eq_true, Bool.and_eq_true, beq_iff_eq, decide_eq_true_eq] at h
  by_cases hsmall : c.toNat < 128
  · rw [isWord, if_pos hsmall]
    simp only [Bool.or_eq_false_iff, Bool.and_eq_false_iff, decide_eq_false_iff_not,
      beq_eq_false_iff_ne, ne_eq]
    omega
  · rcases (by omega : c.toNat ≤ 0xA9 ∨ c.toNat = 0x1680 ∨
      (0x2000 ≤ c.toNat ∧ c.toNat ≤ 0x206F) ∨ c.toNat = 0x3000) with hc | hc | hc | hc
    · exact isWord_of_gap 0x80 0xA9 (by simp) (by omega) (by omega) hc
    · exact isWord_of_gap 0x1680 0x1680 (by simp) (by omega) (by omega) (by omega)
    · exact isWord_of_gap 0x2000 0x206F (by simp) (by omega) hc.1 hc.2
    · exact isWord_of_gap 0x3000 0x3000 (by simp) (by omega) (by omega) (by omega)

theorem isBlank_of_isInnerBlank {c : Char} (h : Token.isInnerBlank c = true) :
    isBlank c = true := by
  simp only [Token.isInnerBlank, Bool.or_eq_true, beq_iff_eq] at h
  rcases h with (rfl | rfl) | rfl <;> rfl

theorem isBlank_eq_false_of_all {t : Text} (ht : t.all (!isBlank ·) = true) {c : Char}
    (hc : c ∈ t) : isBlank c = false := by
  simpa using List.all_eq_true.mp ht c hc

theorem not_mem_of_blank {t : Text} {c : Char} (ht : ∀ d ∈ t, isBlank d = true)
    (hc : isBlank c = false) : c ∉ t := by
  intro hmem
  rw [ht c hmem] at hc
  contradiction

theorem drop_length_takeWhile (p : Char → Bool) (t : Text) :
    t.drop (t.takeWhile p).length = t.dropWhile p := by
  induction t with
  | nil => rfl
  | cons c cs ih =>
    by_cases hc : p c = true
    · simp [hc, ih]
    · simp [hc]

/-- A text that neither starts nor ends with a blank. -/
structure Solid (t : Text) : Prop where
  head : ∀ c ∈ t.head?, isBlank c = false
  last : ∀ c ∈ t.getLast?, isBlank c = false

theorem trimLeft_append_of_blank {a : Text} (ha : ∀ c ∈ a, isBlank c = true) (t : Text) :
    trimLeft (a ++ t) = trimLeft t :=
  List.dropWhile_append_of_pos ha

theorem trimLeft_eq_self {t : Text} (h : ∀ c ∈ t.head?, isBlank c = false) : trimLeft t = t := by
  cases t with
  | nil => rfl
  | cons c cs => simp [trimLeft, h c rfl]

theorem trimLeft_head (t : Text) : ∀ c ∈ (trimLeft t).head?, isBlank c = false := by
  intro c hc
  obtain ⟨rest, hrest⟩ : ∃ rest, trimLeft t = c :: rest := List.head?_eq_some_iff.mp hc
  have hne : t.dropWhile isBlank ≠ [] := by
    change trimLeft t ≠ []
    simp [hrest]
  have hnot := List.head_dropWhile_not isBlank hne
  have hhead : (t.dropWhile isBlank).head hne = c := by
    simp only [show t.dropWhile isBlank = c :: rest from hrest, List.head_cons]
  rwa [hhead] at hnot

theorem trimRight_append_ending (t : Text) : trimRight t ++ ending t = t :=
  List.rdropWhile_append_rtakeWhile

theorem isBlank_of_mem_ending {t : Text} {c : Char} (h : c ∈ ending t) : isBlank c = true :=
  List.mem_rtakeWhile_imp h

theorem trimRight_last (t : Text) : ∀ c ∈ (trimRight t).getLast?, isBlank c = false := by
  intro c hc
  have hhead := trimLeft_head t.reverse c
  simp only [trimRight, List.getLast?_reverse] at hc
  exact hhead hc

theorem trimRight_append_of_blank {b : Text} (hb : ∀ c ∈ b, isBlank c = true) (t : Text) :
    trimRight (t ++ b) = trimRight t := by
  simp only [trimRight, List.reverse_append]
  rw [List.dropWhile_append_of_pos (by simpa using hb)]

theorem trimRight_eq_self {t : Text} (h : ∀ c ∈ t.getLast?, isBlank c = false) :
    trimRight t = t := by
  have hrev : trimLeft t.reverse = t.reverse := trimLeft_eq_self (by simpa using h)
  simp only [trimLeft] at hrev
  simp [trimRight, hrev]

/-- The ending begins right after the last visible character. -/
theorem ending_append {t b : Text} (h : ∀ c ∈ t.getLast?, isBlank c = false)
    (hb : ∀ c ∈ b, isBlank c = true) : ending (t ++ b) = b := by
  have hsplit := trimRight_append_ending (t ++ b)
  rw [trimRight_append_of_blank hb, trimRight_eq_self h] at hsplit
  exact List.append_cancel_left hsplit

theorem trim_solid (t : Text) : Solid (trim t) := by
  refine ⟨?_, trimRight_last _⟩
  intro c hc
  -- What is cut off on the right does not reach the head.
  obtain ⟨rest, hrest⟩ : ∃ rest, trim t = c :: rest := List.head?_eq_some_iff.mp hc
  have hsplit := trimRight_append_ending (trimLeft t)
  rw [show trimRight (trimLeft t) = c :: rest from hrest] at hsplit
  apply trimLeft_head t c
  rw [← hsplit]
  rfl

theorem trim_append {a t b : Text} (ha : ∀ c ∈ a, isBlank c = true)
    (hb : ∀ c ∈ b, isBlank c = true) (ht : Solid t) : trim (a ++ t ++ b) = t := by
  rw [trim, List.append_assoc, trimLeft_append_of_blank ha]
  cases t with
  | nil =>
    have hnil : trimLeft ([] ++ b) = [] := by
      simpa [trimLeft] using hb
    rw [hnil]
    rfl
  | cons c cs =>
    rw [trimLeft_eq_self (t := c :: cs ++ b) (by simpa using ht.head),
      trimRight_append_of_blank hb, trimRight_eq_self ht.last]

theorem trim_eq_self {t : Text} (ht : Solid t) : trim t = t := by
  simpa using trim_append (a := []) (b := []) (by simp) (by simp) ht

/-- A visible character at the head stays. -/
theorem trim_cons {c : Char} (hc : isBlank c = false) (cs : Text) :
    ∃ rest, trim (c :: cs) = c :: rest := by
  have hsplit := trimRight_append_ending (c :: cs)
  rw [trim, trimLeft_eq_self (by simpa using hc)]
  cases hright : trimRight (c :: cs) with
  | nil =>
    have hmem : c ∈ ending (c :: cs) := by
      rw [hright, List.nil_append] at hsplit
      simp [hsplit]
    simp [isBlank_of_mem_ending hmem] at hc
  | cons d rest =>
    rw [hright] at hsplit
    exact ⟨rest, by rw [(List.cons.inj hsplit).1]⟩

theorem trim_eq_nil_iff {t : Text} : trim t = [] ↔ ∀ c ∈ t, isBlank c = true := by
  constructor
  · intro h
    have hright : ∀ c ∈ trimLeft t, isBlank c = true := List.rdropWhile_eq_nil_iff.mp h
    intro c hc
    rw [← List.takeWhile_append_dropWhile (p := isBlank) (l := t)] at hc
    rcases List.mem_append.mp hc with hc | hc
    · exact List.mem_takeWhile_imp hc
    · exact hright c hc
  · intro h
    simpa using trim_append (t := []) (b := []) h (by simp) ⟨by simp, by simp⟩

/-- Every text is its core between blanks. -/
theorem exists_trim (t : Text) :
    ∃ a b : Text, (∀ c ∈ a, isBlank c = true) ∧ (∀ c ∈ b, isBlank c = true) ∧
      t = a ++ trim t ++ b := by
  refine ⟨t.takeWhile isBlank, ending (trimLeft t), fun c => List.mem_takeWhile_imp,
    fun c => isBlank_of_mem_ending, ?_⟩
  have hright : trim t ++ ending (trimLeft t) = trimLeft t := trimRight_append_ending _
  rw [List.append_assoc, hright]
  exact List.takeWhile_append_dropWhile.symm

/-- The visible characters of a text are in its core. -/
theorem mem_trim {t : Text} {c : Char} (hmem : c ∈ t) (hc : isBlank c = false) : c ∈ trim t := by
  obtain ⟨a, b, ha, hb, hsplit⟩ := exists_trim t
  rw [hsplit, List.mem_append, List.mem_append] at hmem
  rcases hmem with (hmem | hmem) | hmem
  · exact absurd hmem (not_mem_of_blank ha hc)
  · exact hmem
  · exact absurd hmem (not_mem_of_blank hb hc)

theorem countP_eq_zero_of_blank {q : Char → Bool} (hq : ∀ c, isBlank c = true → q c = false)
    {t : Text} (ht : ∀ c ∈ t, isBlank c = true) : t.countP q = 0 := by
  rw [List.countP_eq_zero]
  intro c hc
  simp [hq c (ht c hc)]

theorem countP_trim {q : Char → Bool} (hq : ∀ c, isBlank c = true → q c = false) (t : Text) :
    (trim t).countP q = t.countP q := by
  obtain ⟨a, b, ha, hb, ht⟩ := exists_trim t
  have hsum := congrArg (List.countP q) ht
  rw [List.countP_append, List.countP_append, countP_eq_zero_of_blank hq ha,
    countP_eq_zero_of_blank hq hb] at hsum
  omega

theorem beq_eq_false_of_isBlank {d : Char} (hd : isBlank d = false) (c : Char)
    (hc : isBlank c = true) : (c == d) = false := by
  rw [beq_eq_false_iff_ne]
  rintro rfl
  rw [hd] at hc
  contradiction

/-- A line that is not blank is its indentation, its core and its ending. -/
theorem indentation_trim_ending {t : Text} (h : trim t ≠ []) :
    indentation t ++ trim t ++ ending t = t := by
  have hcut : t.takeWhile isBlank ++ trimLeft t = t := List.takeWhile_append_dropWhile
  have hright : trim t ++ ending (trimLeft t) = trimLeft t := trimRight_append_ending _
  have hend : ending t = ending (trimLeft t) := by
    conv_lhs => rw [← hcut, ← hright, ← List.append_assoc]
    apply ending_append
    · rw [List.getLast?_append_of_ne_nil _ h]
      exact (trim_solid t).last
    · intro c
      exact isBlank_of_mem_ending
  rw [indentation, if_neg (by simpa using h), hend, List.append_assoc, hright, hcut]

theorem isBlank_of_mem_indentation {t : Text} {c : Char} (h : c ∈ indentation t) :
    isBlank c = true := by
  rw [indentation] at h
  split at h
  · simp at h
  · exact List.mem_takeWhile_imp h

end Pruner.Text
