import Pruner.Rule.Import
import Pruner.Proofs.Fix.Round
import Pruner.Proofs.Text.Lines
import Pruner.Proofs.Text.Clauses
import Pruner.Proofs.Text.Words

namespace Pruner.Import

open Pruner.Text Pruner.Line

theorem import_space : "import ".toList = importWord ++ [' '] := by decide

theorem importWord_isWord : ∀ c ∈ importWord, isWord c = true :=
  List.all_eq_true.mp (show importWord.all isWord = true by decide)

theorem fromWord_isWord : ∀ c ∈ fromWord, isWord c = true :=
  List.all_eq_true.mp (show fromWord.all isWord = true by decide)

theorem isBlank_head_importWord : ∀ c ∈ importWord.head?, isBlank c = false :=
  fun _ hc => isBlank_eq_false_of_all (by decide) (List.mem_of_head? hc)

/-- The word `from` is not cut at. -/
theorem cutAtWord?_from {c : Char} (hc : isWord c = false) (t : Text) :
    cutAtWord? importWord false (fromWord ++ c :: t) =
      (cutAtWord? importWord false t).map fun (before, after) => (fromWord ++ c :: before, after) :=
  cutAtWord?_other importWord_isWord (by decide) fromWord_isWord (by decide) (by decide) hc

/-- The first word of a line is the given one. -/
def OpensWith (word line : Text) : Prop :=
  startsWord word false (trimLeft line) = true

theorem OpensWith.split {word line : Text} (h : OpensWith word line) :
    ∃ a after : Text, (∀ c ∈ a, isBlank c = true) ∧ line = a ++ word ++ after ∧
      after.head?.any isWord = false := by
  obtain ⟨-, after, hafter, hnot⟩ := startsWord_iff.mp h
  refine ⟨line.takeWhile isBlank, after, fun c => List.mem_takeWhile_imp, ?_, hnot⟩
  rw [List.append_assoc, ← hafter]
  exact List.takeWhile_append_dropWhile.symm

theorem OpensWith.isFrom {line : Text} (h : OpensWith fromWord line) : isFrom line = true := by
  obtain ⟨-, after, hafter, -⟩ := startsWord_iff.mp h
  rw [Import.isFrom, hafter]
  simp [startsWith]

/-- A line that opens with `import` is cut after its indentation. -/
theorem OpensWith.cut {line : Text} (h : OpensWith importWord line) :
    ∃ a after : Text, (∀ c ∈ a, isBlank c = true) ∧ line = a ++ importWord ++ after ∧
      cutAtWord? importWord false line = some (a, after) := by
  obtain ⟨a, after, ha, hline, hafter⟩ := h.split
  refine ⟨a, after, ha, hline, ?_⟩
  rw [hline]
  exact cutAtWord?_blank_append ha isBlank_head_importWord (by decide) hafter

/-- The names of a `from` import that are not reported as unused, without their module. -/
def keptNames (base after : Text) (unused : List Text) : List Text :=
  ((commaPieces (trim after)).filter fun x => !unused.contains (base ++ ['.'] ++ trim x)).map
    fun x => Text.erase (base ++ ['.']) (trim x)

/-- A `from` import with other names. -/
def withNames (line before : Text) (names : List Text) : Text :=
  before ++ "import ".toList ++ join ", ".toList names ++ ending line

theorem filterFrom_of_cut {line before after base : Text} (unused : List Text)
    (hcut : cutAtWord? importWord false line = some (before, after))
    (hbase : baseModule? false before = some base) :
    filterFrom line unused = .ok (if keptNames base after unused = [] then passFor line
      else withNames line before (sort (keptNames base after unused))) := by
  have hkept : (((commaPieces (trim after)).map fun x => base ++ ['.'] ++ trim x).filter
      (!unused.contains ·)).map (Text.erase (base ++ ['.'])) = keptNames base after unused := by
    rw [List.filter_map, List.map_map, keptNames]
    apply List.map_congr_left
    intro x _
    exact erase_append_self (by simp) (trim x)
  rw [filterFrom, hcut]
  dsimp only
  rw [hbase]
  dsimp only
  rw [hkept]
  by_cases hnil : keptNames base after unused = []
  · simp [hnil]
  · simp [hnil, withNames]

theorem filterFrom_eq_ok {line piece : Text} {unused : List Text}
    (h : filterFrom line unused = .ok piece) :
    ∃ before after base, cutAtWord? importWord false line = some (before, after) ∧
      baseModule? false before = some base ∧
      piece = if keptNames base after unused = [] then passFor line
        else withNames line before (sort (keptNames base after unused)) := by
  cases hcut : cutAtWord? importWord false line with
  | none => simp [filterFrom, hcut] at h
  | some cut =>
    obtain ⟨before, after⟩ := cut
    cases hbase : baseModule? false before with
    | none => simp [filterFrom, hcut, hbase] at h
    | some base =>
      rw [filterFrom_of_cut unused hcut hbase] at h
      exact ⟨before, after, base, rfl, hbase, (Except.ok.inj h).symm⟩

/-- The clauses of an import, each on a line of its own. -/
def ownLines (line before after : Text) : List Text :=
  (sort (commaPieces after)).map fun x => before ++ "import ".toList ++ trim x ++ ending line

theorem breakUp_eq_ok {line piece : Text} (h : breakUp line = .ok piece) :
    piece = line ∨ ∃ before after, cutAtWord? importWord false line = some (before, after) ∧
      piece = (ownLines line before after).flatten := by
  rw [breakUp] at h
  split at h
  · simp at h
  · dsimp only at h
    split at h
    · exact Or.inl (Except.ok.inj h).symm
    · cases hcut : cutAtWord? importWord false line with
      | none => simp [hcut] at h
      | some cut =>
        obtain ⟨before, after⟩ := cut
        rw [hcut] at h
        refine Or.inr ⟨before, after, rfl, ?_⟩
        rw [ownLines, ← List.flatMap_def]
        exact (Except.ok.inj h).symm

/-- What becomes of a line with an unused import: it stays, it is split at its commas, or, if its
package may be touched, it loses names or gives way to a `pass`. -/
theorem filterUnused_cases {line previous piece : Text} {unused allowed : List Text}
    {removeAll : Bool} (h : filterUnused line unused removeAll allowed previous = .ok piece) :
    piece = line ∨ isPartialImport line previous = false ∧
      (',' ∈ line ∧ isFrom line = false ∧ breakUp line = .ok piece ∨
      ∃ found, package line = .ok found ∧ (removeAll = true ∨ found.any allowed.contains = true) ∧
        (isFrom line = true ∧ filterFrom line unused = .ok piece ∨
          ',' ∉ line ∧ piece = passFor line)) := by
  rw [filterUnused] at h
  split at h
  · exact Or.inl (Except.ok.inj h).symm
  · rename_i hwhole
    rw [Bool.not_eq_true] at hwhole
    split at h
    · rename_i hsplit
      simp only [Bool.and_eq_true, Bool.not_eq_true', List.contains_iff_mem] at hsplit
      exact Or.inr ⟨hwhole, Or.inl ⟨hsplit.1, hsplit.2, h⟩⟩
    · rename_i hsplit
      obtain ⟨found, hfound, h⟩ := Fix.bind_eq_ok.mp h
      split at h
      · exact Or.inl (Except.ok.inj h).symm
      · rename_i hmay
        have hmay' : removeAll = true ∨ found.any allowed.contains = true := by
          simpa [Classical.or_iff_not_imp_left] using hmay
        refine Or.inr ⟨hwhole, Or.inr ⟨found, hfound, hmay', ?_⟩⟩
        split at h
        · rename_i hcomma
          have hfrom : isFrom line = true := by
            rw [List.contains_iff_mem] at hcomma
            simpa [hcomma] using hsplit
          exact Or.inl ⟨hfrom, h⟩
        · rename_i hcomma
          exact Or.inr ⟨by simpa using hcomma, (Except.ok.inj h).symm⟩

theorem filterUnused_of_modules {line previous : Text} (unused allowed : List Text)
    (removeAll : Bool) (hwhole : isPartialImport line previous = false) (hcomma : ',' ∈ line)
    (hfrom : isFrom line = false) :
    filterUnused line unused removeAll allowed previous = breakUp line := by
  have hsplit : (line.contains ',' && !isFrom line) = true := by
    rw [List.contains_iff_mem.mpr hcomma, hfrom]
    rfl
  rw [filterUnused, hwhole, if_neg Bool.false_ne_true, if_pos hsplit]

theorem filterUnused_of_names {line previous name : Text} (unused : List Text) {allowed : List Text}
    (removeAll : Bool) (hwhole : isPartialImport line previous = false) (hcomma : ',' ∈ line)
    (hfrom : isFrom line = true) (hpackage : package line = .ok (some name))
    (hname : name ∈ allowed) :
    filterUnused line unused removeAll allowed previous = filterFrom line unused := by
  rw [filterUnused, hwhole, hpackage]
  simp [hfrom, hcomma, hname, bind, Except.bind]

/-- The package of an import line is its second word up to a point. -/
theorem package_of_words {line first second : Text} {rest : List Text} {found : Option Text}
    (hwords : words line = first :: second :: rest)
    (hopen : startsWith importWord (trimLeft line) = true ∨ isFrom line = true)
    (h : package line = .ok found) : found = some (second.takeWhile (· != '.')) := by
  rw [package, hwords] at h
  split at h
  · simp at h
  · rw [if_pos (by simpa using hopen)] at h
    exact (Except.ok.inj h).symm

/-- Before the word `import` a line that opens with `from` has that word and something after it. -/
theorem OpensWith.cut_from {line before after : Text} (h : OpensWith fromWord line)
    (hcut : cutAtWord? importWord false line = some (before, after)) :
    ∃ a c t more, (∀ d ∈ a, isBlank d = true) ∧ isWord c = false ∧
      line = a ++ fromWord ++ c :: t ∧ before = a ++ fromWord ++ c :: more ∧
      cutAtWord? importWord false t = some (more, after) := by
  obtain ⟨a, rest, ha, hline, hrest⟩ := h.split
  cases rest with
  | nil =>
    -- Nothing follows, but the word `import` must.
    have hmem : 'p' ∈ line := by
      have hword : 'p' ∈ importWord := by decide
      rw [(cutAtWord?_eq_some hcut).1]
      exact List.mem_append_left _ (List.mem_append_right _ hword)
    have hother : 'p' ∉ fromWord := by decide
    rw [hline, List.append_nil, List.mem_append] at hmem
    rcases hmem with hmem | hmem
    · exact absurd hmem (not_mem_of_blank ha (by decide))
    · exact absurd hmem hother
  | cons c t =>
    have hc : isWord c = false := by simpa using hrest
    rw [hline, List.append_assoc, cutAtWord?_blanks ha isBlank_head_importWord (by decide),
      cutAtWord?_from hc, Option.map_map, Option.map_eq_some_iff] at hcut
    obtain ⟨⟨more, after'⟩, hmore, heq⟩ := hcut
    obtain ⟨hbefore, rfl⟩ := Prod.mk.inj heq
    refine ⟨a, c, t, more, ha, hc, hline, ?_, hmore⟩
    rw [List.append_assoc]
    exact hbefore.symm

end Pruner.Import
