import Pruner.Proofs.Text.Blank

namespace Pruner.Text

/-- A name: one character that may start an identifier, and others that may go on with it. -/
def IsIdentifier (name : Text) : Prop :=
  ∃ c cs, name = c :: cs ∧ isIdentifierStart c = true ∧ ∀ d ∈ cs, isIdentifierPart d = true

/-- Where the blanks beyond ASCII lie. -/
def wideBlanks : List (Nat × Nat) :=
  [(0x85, 0x85), (0xA0, 0xA0), (0x1680, 0x1680), (0x2000, 0x200A), (0x2028, 0x2029),
    (0x202F, 0x202F), (0x205F, 0x205F), (0x3000, 0x3000)]

/-- The tables that the characters of identifiers are taken from, beyond ASCII. -/
def identifierTables : List (List (Nat × Nat)) :=
  [letterRanges, letterNumberRanges, markRanges, decimalRanges, connectorRanges,
    [(0x1885, 0x1886), (0x2118, 0x2118), (0x212E, 0x212E)],
    [(0xB7, 0xB7), (0x387, 0x387), (0xE33, 0xE33), (0xEB3, 0xEB3), (0x1369, 0x1371),
      (0x19DA, 0x19DA), (0xFF9E, 0xFF9F)]]

theorem identifier_tables_avoid_blanks :
    ∀ gap ∈ wideBlanks, ∀ table ∈ identifierTables, avoids table gap.1 gap.2 = true := by
  decide +kernel

theorem wide_of_isBlank {c : Char} (h : isBlank c = true) (hbig : 128 ≤ c.toNat) :
    ∃ gap ∈ wideBlanks, gap.1 ≤ c.toNat ∧ c.toNat ≤ gap.2 := by
  simp only [isBlank, Bool.or_eq_true, Bool.and_eq_true, beq_iff_eq, decide_eq_true_eq] at h
  simp only [wideBlanks, List.mem_cons, List.not_mem_nil, or_false, exists_eq_or_imp,
    exists_eq_left]
  omega

/-- In ASCII an identifier has letters, digits and underscores. -/
theorem isIdentifierPart_ascii {c : Char} (hsmall : c.toNat < 128) :
    isIdentifierPart c = true ↔ 48 ≤ c.toNat ∧ c.toNat ≤ 57 ∨ 65 ≤ c.toNat ∧ c.toNat ≤ 90 ∨
      c.toNat = 95 ∨ 97 ≤ c.toNat ∧ c.toNat ≤ 122 := by
  simp only [isIdentifierPart, isIdentifierStart, if_pos hsmall, Bool.or_eq_true, Bool.and_eq_true,
    beq_iff_eq, decide_eq_true_eq]
  omega

theorem isIdentifierPart_wide {c : Char} (hbig : 128 ≤ c.toNat) (h : isIdentifierPart c = true) :
    ∃ table ∈ identifierTables, inRanges table c.toNat = true := by
  have hnot : ¬c.toNat < 128 := by omega
  simp only [isIdentifierPart, isIdentifierStart, if_neg hnot, Bool.or_eq_true,
    Bool.and_eq_true] at h
  simp only [identifierTables, List.mem_cons, List.not_mem_nil, or_false, exists_eq_or_imp,
    exists_eq_left]
  tauto

/-- The characters of identifiers are visible. -/
theorem isBlank_of_isIdentifierPart {c : Char} (h : isIdentifierPart c = true) :
    isBlank c = false := by
  rw [← Bool.not_eq_true]
  intro hblank
  by_cases hsmall : c.toNat < 128
  · rw [isIdentifierPart_ascii hsmall] at h
    simp only [isBlank, Bool.or_eq_true, Bool.and_eq_true, beq_iff_eq, decide_eq_true_eq] at hblank
    omega
  · obtain ⟨gap, hgap, hlow, hhigh⟩ := wide_of_isBlank hblank (by omega)
    obtain ⟨table, htable, hin⟩ := isIdentifierPart_wide (by omega) h
    rw [inRanges_of_avoids (identifier_tables_avoid_blanks gap hgap table htable) hlow hhigh] at hin
    contradiction

theorem isIdentifier_singleton {c : Char} (h : isIdentifierStart c = true) : IsIdentifier [c] :=
  ⟨c, [], rfl, h, by simp⟩

theorem IsIdentifier.part {name : Text} (h : IsIdentifier name) :
    ∀ c ∈ name, isIdentifierPart c = true := by
  obtain ⟨c, cs, rfl, hc, hcs⟩ := h
  intro d hd
  rcases List.mem_cons.mp hd with rfl | hd
  · simp [isIdentifierPart, hc]
  · exact hcs d hd

theorem IsIdentifier.ne_nil {name : Text} (h : IsIdentifier name) : name ≠ [] := by
  obtain ⟨c, cs, rfl, -⟩ := h
  simp

/-- A character that identifiers do not have is in none of them. -/
theorem IsIdentifier.not_mem {name : Text} (h : IsIdentifier name) {c : Char}
    (hc : isIdentifierPart c = false) : c ∉ name := by
  intro hmem
  rw [h.part c hmem] at hc
  contradiction

end Pruner.Text
