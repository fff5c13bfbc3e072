import Mathlib.Data.List.Permutation
import Pruner.Proofs.Rule.Import
import Pruner.Proofs.Token.PassLine

namespace Pruner.Import

open Pruner.Text Pruner.Line Pruner.Token

section

variable {line before after : Text}

theorem newline_not_mem_indentation (hl : IsLine line) : '\n' ∉ indentation line := by
  by_cases hblank : trim line = []
  · simp [indentation, hblank]
  · intro hmem
    apply hl.newline_last
    rw [← indentation_trim_ending hblank, List.append_assoc,
      List.dropLast_append_of_ne_nil (by simp [hblank])]
    exact List.mem_append_left _ hmem

theorem isLine_passFor (hl : IsLine line) : IsLine (passFor line) := by
  apply hl.append_ending
  · have hpass : '\n' ∉ "pass".toList := by decide
    rw [List.mem_append, not_or]
    exact ⟨newline_not_mem_indentation hl, hpass⟩
  · simp

theorem trim_passFor (line : Text) : trim (passFor line) = passWord := by
  have hsolid : Solid passWord := by
    constructor
    · exact fun c hc => isBlank_eq_false_of_all (by decide) (List.mem_of_head? hc)
    · exact fun c hc => isBlank_eq_false_of_all (by decide) (List.mem_of_getLast? hc)
  exact trim_append (fun c => isBlank_of_mem_indentation) (fun c => isBlank_of_mem_ending) hsolid

theorem newline_not_mem_before (hl : IsLine line)
    (hcut : cutAtWord? importWord false line = some (before, after)) : '\n' ∉ before := by
  intro hmem
  apply hl.newline_last
  rw [(cutAtWord?_eq_some hcut).1, List.append_assoc,
    List.dropLast_append_of_ne_nil (List.append_ne_nil_of_left_ne_nil (by decide) after)]
  exact List.mem_append_left _ hmem

theorem newline_not_mem_clause (hl : IsLine line)
    (hcut : cutAtWord? importWord false line = some (before, after)) {x : Text}
    (hx : x ∈ commaPieces after) : '\n' ∉ trim x := by
  apply hl.newline_not_mem _ (trim_solid x)
  have htrim : trim x <:+: x := by
    obtain ⟨a, b, -, -, hsplit⟩ := exists_trim x
    exact ⟨a, b, hsplit.symm⟩
  have hafter : after <:+: line := by
    rw [(cutAtWord?_eq_some hcut).1]
    exact (List.suffix_append _ after).isInfix
  exact (htrim.trans (infix_of_mem_commaPieces hx)).trans hafter

/-- The names that are kept have no other characters than the clauses. -/
theorem exists_of_mem_keptNames {base z : Text} {unused : List Text}
    (hz : z ∈ keptNames base after unused) : ∃ x ∈ commaPieces after, z ⊆ trim x := by
  obtain ⟨y, hy, rfl⟩ := List.mem_map.mp hz
  have hmem : trim y ∈ (commaPieces (trim after)).map trim :=
    List.mem_map_of_mem (List.mem_filter.mp hy).1
  rw [map_trim_commaPieces_trim] at hmem
  obtain ⟨x, hx, hxy⟩ := List.mem_map.mp hmem
  refine ⟨x, hx, ?_⟩
  rw [hxy]
  exact (erase_sublist (by simp) (trim y)).subset

theorem newline_not_mem_names {zs : List Text} (hl : IsLine line)
    (hcut : cutAtWord? importWord false line = some (before, after))
    (hzs : ∀ z ∈ zs, '\n' ∉ z) : '\n' ∉ before ++ "import ".toList ++ join ", ".toList zs := by
  intro hmem
  rw [List.mem_append, List.mem_append] at hmem
  rcases hmem with (hmem | hmem) | hmem
  · exact newline_not_mem_before hl hcut hmem
  · simp at hmem
  · rcases mem_of_mem_join hmem with hmem | ⟨z, hz, hmem⟩
    · simp at hmem
    · exact hzs z hz hmem

theorem isLine_withNames {zs : List Text} (hl : IsLine line)
    (hcut : cutAtWord? importWord false line = some (before, after))
    (hzs : ∀ z ∈ zs, '\n' ∉ z) : IsLine (withNames line before zs) :=
  hl.append_ending (newline_not_mem_names hl hcut hzs) (by simp)

/-- A clause on a line of its own. -/
theorem mem_ownLines {l : Text} : l ∈ ownLines line before after ↔
    ∃ x ∈ commaPieces after, l = before ++ "import ".toList ++ trim x ++ ending line := by
  rw [ownLines, List.mem_map]
  constructor
  · rintro ⟨x, hx, rfl⟩
    exact ⟨x, (sort_perm _).mem_iff.mp hx, rfl⟩
  · rintro ⟨x, hx, rfl⟩
    exact ⟨x, (sort_perm _).mem_iff.mpr hx, rfl⟩

theorem ownLines_ne_nil (line before after : Text) : ownLines line before after ≠ [] := by
  intro hnil
  have hlen := congrArg List.length hnil
  rw [ownLines, List.length_map, (sort_perm _).length_eq, commaPieces, length_pieces] at hlen
  simp at hlen

theorem endsLine_ownLines (he : EndsLine line) : EndsLine (ownLines line before after).flatten := by
  obtain ⟨ls, l, hls⟩ : ∃ ls l, ownLines line before after = ls ++ [l] :=
    ⟨_, _, (List.dropLast_append_getLast (ownLines_ne_nil line before after)).symm⟩
  obtain ⟨x, -, hl⟩ := mem_ownLines.mp (show l ∈ ownLines line before after by simp [hls])
  rw [hls, List.flatten_append, List.flatten_singleton, hl, ← List.append_assoc]
  exact he.append_ending _

/-- The lines of the clauses, if the line has a line feed. -/
theorem lines_ownLines (hl : IsLine line) (he : EndsLine line)
    (hcut : cutAtWord? importWord false line = some (before, after)) :
    lines (ownLines line before after).flatten = ownLines line before after := by
  apply lines_flatten_of_lined
  apply Lined.of_forall
  intro l hmem
  obtain ⟨x, hx, rfl⟩ := mem_ownLines.mp hmem
  refine ⟨hl.append_ending ?_ (by simp), he.append_ending _⟩
  have hword : '\n' ∉ "import ".toList := by decide
  simp only [List.mem_append, not_or]
  exact ⟨⟨newline_not_mem_before hl hcut, hword⟩, newline_not_mem_clause hl hcut hx⟩

end

/-- Characters that an edited import line may have although the line has them not. -/
def addedChars : Text := "import pass,".toList

section

variable {line piece : Text} {c : Char}

theorem mem_of_mem_ending (h : c ∈ ending line) : c ∈ line := by
  rw [← trimRight_append_ending line]
  exact List.mem_append_right _ h

theorem mem_of_mem_trim (h : c ∈ trim line) : c ∈ line := by
  obtain ⟨a, b, -, -, hsplit⟩ := exists_trim line
  rw [hsplit]
  exact List.mem_append_left _ (List.mem_append_right _ h)

theorem mem_of_mem_indentation (h : c ∈ indentation line) : c ∈ line := by
  rw [indentation] at h
  split at h
  · simp at h
  · exact (List.takeWhile_prefix _).subset h

theorem mem_of_mem_passFor (h : c ∈ passFor line) : c ∈ line ∨ c ∈ addedChars := by
  have hpass : "pass".toList ⊆ addedChars := by decide
  rw [passFor, List.mem_append, List.mem_append] at h
  rcases h with (h | h) | h
  · exact Or.inl (mem_of_mem_indentation h)
  · exact Or.inr (hpass h)
  · exact Or.inl (mem_of_mem_ending h)

theorem mem_of_mem_ownLines {before after : Text}
    (hcut : cutAtWord? importWord false line = some (before, after))
    (h : c ∈ (ownLines line before after).flatten) : c ∈ line ∨ c ∈ addedChars := by
  have hword : "import ".toList ⊆ addedChars := by decide
  have hline := (cutAtWord?_eq_some hcut).1
  obtain ⟨l, hl, hmem⟩ := List.mem_flatten.mp h
  obtain ⟨x, hx, rfl⟩ := mem_ownLines.mp hl
  simp only [List.mem_append] at hmem
  rcases hmem with ((hmem | hmem) | hmem) | hmem
  · exact Or.inl (by rw [hline]; simp [hmem])
  · exact Or.inr (hword hmem)
  · have hafter : c ∈ after := (infix_of_mem_commaPieces hx).subset (mem_of_mem_trim hmem)
    exact Or.inl (by rw [hline]; simp [hafter])
  · exact Or.inl (mem_of_mem_ending hmem)

theorem mem_of_mem_withNames {before after base : Text} {unused : List Text}
    (hcut : cutAtWord? importWord false line = some (before, after))
    (h : c ∈ withNames line before (sort (keptNames base after unused))) :
    c ∈ line ∨ c ∈ addedChars := by
  have hword : "import ".toList ⊆ addedChars := by decide
  have hcomma : ", ".toList ⊆ addedChars := by decide
  have hline := (cutAtWord?_eq_some hcut).1
  simp only [withNames, List.mem_append] at h
  rcases h with ((h | h) | h) | h
  · exact Or.inl (by rw [hline]; simp [h])
  · exact Or.inr (hword h)
  · rcases mem_of_mem_join h with h | ⟨z, hz, h⟩
    · exact Or.inr (hcomma h)
    · rw [(sort_perm _).mem_iff] at hz
      obtain ⟨x, hx, hzx⟩ := exists_of_mem_keptNames hz
      have hafter : c ∈ after := (infix_of_mem_commaPieces hx).subset (mem_of_mem_trim (hzx h))
      exact Or.inl (by rw [hline]; simp [hafter])
  · exact Or.inl (mem_of_mem_ending h)

variable {previous : Text} {unused allowed : List Text} {removeAll : Bool}

/-- An edited import line has the characters of the line, and a few more. -/
theorem mem_of_filterUnused (h : filterUnused line unused removeAll allowed previous = .ok piece)
    (hc : c ∈ piece) : c ∈ line ∨ c ∈ addedChars := by
  rcases filterUnused_cases h with
    rfl | ⟨-, ⟨-, -, hsplit⟩ | ⟨found, -, -, ⟨-, hfrom⟩ | ⟨-, rfl⟩⟩⟩
  · exact Or.inl hc
  · rcases breakUp_eq_ok hsplit with rfl | ⟨before, after, hcut, rfl⟩
    · exact Or.inl hc
    · exact mem_of_mem_ownLines hcut hc
  · obtain ⟨before, after, base, hcut, -, rfl⟩ := filterFrom_eq_ok hfrom
    split at hc
    · exact mem_of_mem_passFor hc
    · exact mem_of_mem_withNames hcut hc
  · exact mem_of_mem_passFor hc

/-- An edited import line keeps its line feed. -/
theorem endsLine_filterUnused (h : filterUnused line unused removeAll allowed previous = .ok piece)
    (he : EndsLine line) : EndsLine piece := by
  rcases filterUnused_cases h with
    rfl | ⟨-, ⟨-, -, hsplit⟩ | ⟨found, -, -, ⟨-, hfrom⟩ | ⟨-, rfl⟩⟩⟩
  · exact he
  · rcases breakUp_eq_ok hsplit with rfl | ⟨before, after, hcut, rfl⟩
    · exact he
    · exact endsLine_ownLines he
  · obtain ⟨before, after, base, hcut, -, rfl⟩ := filterFrom_eq_ok hfrom
    split
    · exact he.append_ending _
    · exact he.append_ending _
  · exact he.append_ending _

end

section

instance (word line : Text) : Decidable (OpensWith word line) :=
  inferInstanceAs (Decidable (_ = true))

/-- A line that opens with one of the words of an import. -/
def OpensImport (line : Text) : Prop :=
  OpensWith importWord line ∨ OpensWith fromWord line

instance (line : Text) : Decidable (OpensImport line) :=
  inferInstanceAs (Decidable (_ ∨ _))

theorem opensWith_append {word a rest : Text} (ha : ∀ c ∈ a, isBlank c = true)
    (hne : word ≠ []) (hword : ∀ c ∈ word, isBlank c = false)
    (hrest : rest.head?.any isWord = false) : OpensWith word (a ++ word ++ rest) := by
  have hhead : ∀ c ∈ (word ++ rest).head?, isBlank c = false := by
    intro c hc
    rw [List.head?_append_of_ne_nil _ hne] at hc
    exact hword c (List.mem_of_head? hc)
  rw [OpensWith, List.append_assoc, trimLeft_append_of_blank ha, trimLeft_eq_self hhead]
  exact startsWord_iff.mpr ⟨rfl, rest, rfl, hrest⟩

/-- A clause on a line of its own opens with `import`. -/
theorem opensWith_import {a : Text} (ha : ∀ c ∈ a, isBlank c = true) (t : Text) :
    OpensWith importWord (a ++ "import ".toList ++ t) := by
  have hsplit : a ++ "import ".toList ++ t = a ++ importWord ++ ' ' :: t := by
    simp [import_space]
  have hspace : isWord ' ' = false := by decide
  rw [hsplit]
  exact opensWith_append ha (by decide) (fun c => isBlank_eq_false_of_all (by decide)) hspace

variable {line before after : Text}

/-- A `from` import with other names opens with `from`. -/
theorem OpensWith.withNames (h : OpensWith fromWord line)
    (hcut : cutAtWord? importWord false line = some (before, after)) (names : List Text) :
    OpensWith fromWord (withNames line before names) := by
  obtain ⟨a, c, t, more, ha, hc, -, rfl, -⟩ := h.cut_from hcut
  simp only [Import.withNames, List.append_assoc, List.cons_append]
  rw [← List.append_assoc]
  exact opensWith_append ha (by decide) (fun c => isBlank_eq_false_of_all (by decide)) hc

theorem OpensWith.not_isFrom (h : OpensWith importWord line) : Import.isFrom line = false := by
  obtain ⟨-, after, hafter, -⟩ := startsWord_iff.mp h
  rw [Import.isFrom, hafter]
  rfl

theorem OpensImport.opensWith_import (h : OpensImport line) (hnot : isFrom line = false) :
    OpensWith importWord line := by
  rcases h with himport | hfrom
  · exact himport
  · rw [hfrom.isFrom] at hnot
    contradiction

theorem OpensImport.opensWith_from (h : OpensImport line) (hfrom : isFrom line = true) :
    OpensWith fromWord line := by
  rcases h with himport | hopen
  · rw [himport.not_isFrom] at hfrom
    contradiction
  · exact hopen

/-- What becomes of a line that opens like an import: it stays, its clauses get lines of their own,
or, if its package may be touched, it gives way to a `pass` or to a line with other names. -/
theorem OpensImport.filterUnused_cases {previous piece : Text} {unused allowed : List Text}
    {removeAll : Bool} (hopen : OpensImport line) (hl : IsLine line)
    (h : filterUnused line unused removeAll allowed previous = .ok piece) :
    piece = line ∨
    (∃ a after, (∀ c ∈ a, isBlank c = true) ∧ OpensWith importWord line ∧
      cutAtWord? importWord false line = some (a, after) ∧
        piece = (ownLines line a after).flatten) ∨
    ∃ found, package line = .ok found ∧ (removeAll = true ∨ found.any allowed.contains = true) ∧
      (piece = passFor line ∧ (OpensWith fromWord line ∨ ',' ∉ line) ∨
      ∃ before after names, OpensWith fromWord line ∧
        cutAtWord? importWord false line = some (before, after) ∧
          piece = withNames line before names ∧ IsLine piece) := by
  rcases Import.filterUnused_cases h with
    rfl | ⟨-, ⟨-, hnot, hsplit⟩ | ⟨found, hfound, hmay, ⟨hfrom, hfilter⟩ | ⟨hcomma, rfl⟩⟩⟩
  · exact Or.inl rfl
  · rcases breakUp_eq_ok hsplit with rfl | ⟨before, after, hcut, rfl⟩
    · exact Or.inl rfl
    · have himport := hopen.opensWith_import hnot
      obtain ⟨a, after', ha, -, hcut'⟩ := himport.cut
      obtain ⟨rfl, rfl⟩ := Prod.mk.inj (Option.some.inj (hcut.symm.trans hcut'))
      exact Or.inr (Or.inl ⟨before, after, ha, himport, hcut, rfl⟩)
  · have hopen' := hopen.opensWith_from hfrom
    refine Or.inr (Or.inr ⟨found, hfound, hmay, ?_⟩)
    obtain ⟨before, after, base, hcut, -, rfl⟩ := filterFrom_eq_ok hfilter
    split
    · exact Or.inl ⟨rfl, Or.inl hopen'⟩
    · refine Or.inr ⟨before, after, _, hopen', hcut, rfl, ?_⟩
      apply isLine_withNames hl hcut
      intro z hz hmem
      rw [(sort_perm _).mem_iff] at hz
      obtain ⟨x, hx, hzx⟩ := exists_of_mem_keptNames hz
      exact newline_not_mem_clause hl hcut hx (hzx hmem)
  · exact Or.inr (Or.inr ⟨found, hfound, hmay, Or.inl ⟨rfl, Or.inr hcomma⟩⟩)

end

end Pruner.Import
