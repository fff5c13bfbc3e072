import Pruner.Rule.StarImport
import Pruner.Proofs.Fix.Round
import Pruner.Proofs.Text.Pieces

namespace Pruner.StarImport

open Pruner.Text

/-- A line with a text in place of each star. -/
def replaceStars (names line : Text) : Text :=
  line.flatMap fun c => if c == '*' then names else [c]

theorem expand_eq_ok {line piece : Text} {names : List Text} :
    expand line names = .ok piece ↔ ∃ parts,
      parse (join ", ".toList (sortDistinct names)) = .ok parts ∧
        replaceStars (fill parts) line = piece := by
  simp only [expand, Fix.bind_eq_ok, Except.ok.injEq]
  rfl

/-- A replacement text without a backslash stands for itself. -/
theorem parse_go_of_plain {t : Text} (h : '\\' ∉ t) (text : Text) (here : Nat) :
    parse.go text 0 here t = .ok (t.map .char) := by
  induction t generalizing here with
  | nil => rfl
  | cons c cs ih =>
    simp only [List.mem_cons, not_or] at h
    rw [parse.go, if_neg (by simpa using Ne.symm h.1), ih h.2]
    rfl

theorem fill_of_plain {t : Text} {parts : List Part} (ht : '\\' ∉ t) (h : parse t = .ok parts) :
    fill parts = t := by
  rw [parse, parse_go_of_plain ht] at h
  rw [← Except.ok.inj h, fill, List.map_map]
  exact List.map_id _

/-- The names, written in a row, have no other characters than the names and what separates them. -/
theorem not_mem_names {c : Char} {names : List Text} (hsep : c ∉ ", ".toList)
    (hc : ∀ name ∈ names, c ∉ name) : c ∉ join ", ".toList (sortDistinct names) := by
  intro hmem
  rcases mem_of_mem_join hmem with hmem | ⟨name, hname, hmem⟩
  · exact hsep hmem
  · rw [sortDistinct, (sort_perm _).mem_iff, List.mem_eraseDups] at hname
    exact hc name hname hmem

/-- Names without a backslash are put in the place of each star as they are. -/
theorem expand_of_plain {line piece : Text} {names : List Text}
    (hnames : ∀ name ∈ names, '\\' ∉ name) (h : expand line names = .ok piece) :
    piece = replaceStars (join ", ".toList (sortDistinct names)) line := by
  obtain ⟨parts, hparts, rfl⟩ := expand_eq_ok.mp h
  rw [fill_of_plain (not_mem_names (by decide) hnames) hparts]

/-- Nothing changes without a star, or if a star is written again. -/
theorem replaceStars_eq_self {names line : Text} (h : '*' ∉ line ∨ names = ['*']) :
    replaceStars names line = line := by
  conv_rhs => rw [← List.flatMap_singleton' line]
  apply List.flatMap_congr
  intro c hc
  split
  · rename_i hstar
    obtain rfl := beq_iff_eq.mp hstar
    exact h.resolve_left fun hnot => hnot hc
  · rfl

theorem length_replaceStars (names line : Text) :
    (replaceStars names line).length + line.count '*' =
      line.length + line.count '*' * names.length := by
  induction line with
  | nil => simp [replaceStars]
  | cons c cs ih =>
    rw [replaceStars] at ih ⊢
    rw [List.flatMap_cons, List.length_append, List.count_cons, List.length_cons]
    split
    · rw [Nat.add_mul]
      omega
    · rw [List.length_singleton, Nat.add_zero]
      omega

theorem count_replaceStars (names line : Text) :
    (replaceStars names line).count '*' = line.count '*' * names.count '*' := by
  induction line with
  | nil => simp [replaceStars]
  | cons c cs ih =>
    rw [replaceStars] at ih ⊢
    rw [List.flatMap_cons, List.count_append, ih, List.count_cons]
    split
    · rw [Nat.add_mul]
      omega
    · rename_i hne
      rw [Nat.add_zero, List.count_singleton, if_neg hne, Nat.zero_add]

theorem replaceStars_ne_iff {names line : Text} :
    replaceStars names line ≠ line ↔ '*' ∈ line ∧ names ≠ ['*'] := by
  constructor
  · intro hne
    by_contra hnot
    rw [not_and_or, not_not] at hnot
    exact hne (replaceStars_eq_self hnot)
  · rintro ⟨hstar, hnames⟩ hsame
    have hpos : 0 < line.count '*' := List.count_pos_iff.mpr hstar
    have hlen := length_replaceStars names line
    have hcount := count_replaceStars names line
    rw [hsame] at hlen hcount
    have hone : names.length = 1 := by
      have : line.count '*' * names.length = line.count '*' * 1 := by omega
      exact Nat.eq_of_mul_eq_mul_left hpos this
    have hsingle : names.count '*' = 1 := by
      have : line.count '*' * names.count '*' = line.count '*' * 1 := by omega
      exact Nat.eq_of_mul_eq_mul_left hpos this
    obtain ⟨c, rfl⟩ := List.length_eq_one_iff.mp hone
    have hc : '*' ∈ [c] := List.count_pos_iff.mp (by omega)
    exact hnames (by rw [List.mem_singleton.mp hc])

/-- A line changes exactly if it has a star and the names are not written as a star. -/
theorem expand_ne_iff {line piece : Text} {names : List Text} (h : expand line names = .ok piece) :
    piece ≠ line ↔ '*' ∈ line ∧ expand ['*'] names ≠ .ok ['*'] := by
  obtain ⟨parts, hparts, rfl⟩ := expand_eq_ok.mp h
  have hlone : expand ['*'] names = .ok ['*'] ↔ fill parts = ['*'] := by
    rw [expand_eq_ok]
    constructor
    · rintro ⟨parts', hparts', hstar⟩
      rw [hparts, Except.ok.injEq] at hparts'
      simpa [replaceStars, ← hparts'] using hstar
    · intro hfill
      exact ⟨parts, hparts, by simp [replaceStars, hfill]⟩
  rw [replaceStars_ne_iff, ne_eq, ne_eq, hlone]

end Pruner.StarImport
