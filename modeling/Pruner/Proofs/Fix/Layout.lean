import Pruner.Proofs.Fix.Continuation
import Pruner.Proofs.Rule.DuplicateKey
import Pruner.Proofs.Rule.ImportPieces
import Pruner.Proofs.Text.Identifier

/-!
Editing the reported lines keeps the layout of a source: every line gives a piece whose lines have
the indentation of that line, are blank only if it is blank, and end as it ends. So no block loses
its body or changes its depth.

One line can go altogether, the first of those with a repeated key.
-/
namespace Pruner.Fix

open Pruner.Text Pruner.Line Pruner.Import Pruner.Variable Pruner.StarImport

/-- A piece with the layout of a line: one line or several, each with the same indentation and blank
exactly if the line is, and a line feed at the end exactly if the line has one. -/
structure KeepsLayout (line piece : Text) : Prop where
  ne_nil : lines piece ≠ []
  blank : ∀ l ∈ lines piece, trim l = [] ↔ trim line = []
  margin : ∀ l ∈ lines piece, indentation l = indentation line
  ended : EndsLine piece ↔ EndsLine line

/-- What is promised of the diagnostics of a source. An unused import is reported on a line that
opens like an import. If an unused variable is reported on a line with one equals sign, something
visible follows that sign. Names that come from a star import are identifiers. -/
structure Sound (source : Text) (ds : List Diagnostic) : Prop where
  imports : ∀ (i : Nat) (line name : Text), ⟨i + 1, .unusedImport name⟩ ∈ ds →
    (lines source)[i]? = some line → OpensImport line
  values : ∀ (i : Nat) (line name : Text), ⟨i + 1, .unusedVariable name⟩ ∈ ds →
    (lines source)[i]? = some line → ∀ target rest, line = target ++ '=' :: rest →
      '=' ∉ target → '=' ∉ rest → trim rest ≠ []
  names : ∀ n name sources, ⟨n, .starUsage name sources⟩ ∈ ds → IsIdentifier name

section Margin

variable {a t : Text}

/-- The indentation of a line reaches up to its first visible character. -/
theorem indentation_append (ha : ∀ c ∈ a, isBlank c = true) (ht : trimLeft t = t) (hne : t ≠ []) :
    indentation (a ++ t) = a ∧ trim (a ++ t) ≠ [] := by
  obtain ⟨c, cs, rfl⟩ := List.exists_cons_of_ne_nil hne
  have hc : isBlank c = false := trimLeft_head (c :: cs) c (by rw [ht]; rfl)
  have hvisible : trim (a ++ c :: cs) ≠ [] := by
    rw [ne_eq, trim_eq_nil_iff]
    intro hall
    have hblank := hall c (by simp)
    rw [hc] at hblank
    contradiction
  refine ⟨?_, hvisible⟩
  rw [indentation, if_neg (by simpa using hvisible), List.takeWhile_append_of_pos ha,
    List.takeWhile_cons, hc]
  simp

theorem isLine_of_not_endsLine {l : Text} (hl : IsLine l) (h : ¬EndsLine l) : '\n' ∉ l := by
  rcases hl.cases with ⟨s, -, rfl⟩ | hnot
  · exact absurd (endsLine_append s) h
  · exact hnot

/-- A text without a line feed, put in front of the ending of a line, ends as the line does. -/
theorem endsLine_append_ending_iff {x l : Text} (hx : '\n' ∉ x) :
    EndsLine (x ++ ending l) ↔ EndsLine l := by
  constructor
  · intro h
    by_cases hnil : ending l = []
    · rw [hnil, List.append_nil] at h
      exact absurd (List.mem_of_getLast? h) hx
    · rw [EndsLine, List.getLast?_append_of_ne_nil _ hnil] at h
      rwa [EndsLine, ← trimRight_append_ending l, List.getLast?_append_of_ne_nil _ hnil]
  · exact fun h => h.append_ending x

end Margin

section Pieces

variable {line piece : Text}

/-- A piece that is one line. -/
theorem keepsLayout_of_isLine (hpiece : IsLine piece)
    (hblank : trim piece = [] ↔ trim line = []) (hmargin : indentation piece = indentation line)
    (hended : EndsLine piece ↔ EndsLine line) : KeepsLayout line piece := by
  refine ⟨?_, ?_, ?_, hended⟩
  · simp [hpiece.lines_eq]
  · intro l hl
    rw [hpiece.lines_eq, List.mem_singleton] at hl
    rwa [hl]
  · intro l hl
    rw [hpiece.lines_eq, List.mem_singleton] at hl
    rwa [hl]

theorem KeepsLayout.refl (hl : IsLine line) : KeepsLayout line line :=
  keepsLayout_of_isLine hl Iff.rfl rfl Iff.rfl

/-- A line that is not blank starts with its indentation, and then with something visible. -/
theorem exists_margin (h : trim line ≠ []) :
    line = indentation line ++ trimLeft line ∧ trimLeft line ≠ [] ∧
      trimLeft (trimLeft line) = trimLeft line := by
  have hcut : line.takeWhile isBlank ++ trimLeft line = line := List.takeWhile_append_dropWhile
  refine ⟨?_, ?_, trimLeft_eq_self (trimLeft_head line)⟩
  · rw [indentation, if_neg (by simpa using h), hcut]
  · intro hnil
    apply h
    rw [trim, hnil]
    rfl

/-- A visible word in front makes a text start visibly. -/
theorem trimLeft_word_append {word : Text} (hne : word ≠ []) (hword : word.all (!isBlank ·) = true)
    (t : Text) : trimLeft (word ++ t) = word ++ t := by
  apply trimLeft_eq_self
  intro c hc
  rw [List.head?_append_of_ne_nil _ hne] at hc
  exact isBlank_eq_false_of_all hword (List.mem_of_head? hc)

theorem keepsLayout_passFor (hl : IsLine line) (hline : trim line ≠ []) :
    KeepsLayout line (passFor line) := by
  have hpass : '\n' ∉ indentation line ++ "pass".toList := by
    have hword : '\n' ∉ "pass".toList := by decide
    rw [List.mem_append, not_or]
    exact ⟨newline_not_mem_indentation hl, hword⟩
  have hpiece : passFor line = indentation line ++ ("pass".toList ++ ending line) := by
    rw [passFor, List.append_assoc]
  have hended : EndsLine (passFor line) ↔ EndsLine line := endsLine_append_ending_iff hpass
  have hvisible : trimLeft ("pass".toList ++ ending line) = "pass".toList ++ ending line :=
    trimLeft_word_append (by decide) (by decide) _
  have hmargin := indentation_append (a := indentation line)
    (fun c => isBlank_of_mem_indentation) hvisible (by simp)
  rw [← hpiece] at hmargin
  exact keepsLayout_of_isLine (isLine_passFor hl) (iff_of_false hmargin.2 hline) hmargin.1 hended

/-- A line that opens with a word is not blank, and what stands before the word is its indentation. -/
theorem margin_of_word {a word after : Text} (ha : ∀ c ∈ a, isBlank c = true) (hne : word ≠ [])
    (hword : word.all (!isBlank ·) = true) :
    indentation (a ++ (word ++ after)) = a ∧ trim (a ++ (word ++ after)) ≠ [] :=
  indentation_append ha (trimLeft_word_append hne hword after) (by simp [hne])

theorem margin_of_importWord {a : Text} (ha : ∀ c ∈ a, isBlank c = true) (after : Text) :
    indentation (a ++ (importWord ++ after)) = a ∧ trim (a ++ (importWord ++ after)) ≠ [] :=
  margin_of_word ha (by decide) (by decide)

/-- The line of an import is indented as what stands before the word `import`. -/
theorem margin_of_import {a after : Text} (ha : ∀ c ∈ a, isBlank c = true)
    (hcut : cutAtWord? importWord false line = some (a, after)) :
    indentation line = a ∧ trim line ≠ [] := by
  rw [(cutAtWord?_eq_some hcut).1, List.append_assoc]
  exact margin_of_importWord ha after

/-- The clauses of an import on a line without a line feed run together on one long line. -/
theorem keepsLayout_ownLines_unended {a after : Text} (hl : IsLine line)
    (ha : ∀ c ∈ a, isBlank c = true) (he : ¬EndsLine line)
    (hcut : cutAtWord? importWord false line = some (a, after)) :
    KeepsLayout line (ownLines line a after).flatten := by
  have hline := margin_of_import ha hcut
  have hnone : '\n' ∉ (ownLines line a after).flatten := by
    have hadded : '\n' ∉ addedChars := by decide
    intro hmem
    rcases mem_of_mem_ownLines hcut hmem with hmem | hmem
    · exact isLine_of_not_endsLine hl he hmem
    · exact hadded hmem
  obtain ⟨l, ls, hls⟩ := List.exists_cons_of_ne_nil (ownLines_ne_nil line a after)
  obtain ⟨x, -, hl'⟩ := mem_ownLines.mp (show l ∈ ownLines line a after by simp [hls])
  have hpiece : indentation (ownLines line a after).flatten = a ∧
      trim (ownLines line a after).flatten ≠ [] := by
    rw [hls, List.flatten_cons, hl', import_space]
    simpa using margin_of_importWord ha (' ' :: (trim x ++ (ending line ++ ls.flatten)))
  have hisLine : IsLine (ownLines line a after).flatten := by
    apply isLine_of_not_mem _ hnone
    intro hnil
    rw [hnil] at hpiece
    exact hpiece.2 rfl
  exact keepsLayout_of_isLine hisLine (iff_of_false hpiece.2 hline.2)
    (hpiece.1.trans hline.1.symm) (iff_of_false (fun h => hnone (List.mem_of_getLast? h)) he)

/-- The clauses of an import, each on a line of its own. A line without a line feed gives one long
line instead. -/
theorem keepsLayout_ownLines {a after : Text} (hl : IsLine line) (ha : ∀ c ∈ a, isBlank c = true)
    (hcut : cutAtWord? importWord false line = some (a, after)) :
    KeepsLayout line (ownLines line a after).flatten := by
  have hline := margin_of_import ha hcut
  by_cases he : EndsLine line
  · have hown : ∀ l ∈ ownLines line a after, indentation l = a ∧ trim l ≠ [] := by
      intro l hmem
      obtain ⟨x, -, rfl⟩ := mem_ownLines.mp hmem
      rw [import_space]
      simpa using margin_of_importWord ha (' ' :: (trim x ++ ending line))
    have hlines := lines_ownLines hl he hcut
    refine ⟨?_, ?_, ?_, iff_of_true (endsLine_ownLines he) he⟩
    · rw [hlines]
      exact ownLines_ne_nil line a after
    · intro l hmem
      rw [hlines] at hmem
      exact iff_of_false (hown l hmem).2 hline.2
    · intro l hmem
      rw [hlines] at hmem
      rw [(hown l hmem).1, hline.1]
  · exact keepsLayout_ownLines_unended hl ha he hcut

/-- A `from` import with other names. -/
theorem keepsLayout_withNames {before after : Text} {names : List Text}
    (hfrom : OpensWith fromWord line)
    (hcut : cutAtWord? importWord false line = some (before, after))
    (hpiece : IsLine (withNames line before names))
    (hended : EndsLine (withNames line before names) ↔ EndsLine line) :
    KeepsLayout line (withNames line before names) := by
  obtain ⟨a, c, t, more, ha, -, hline, hbefore, -⟩ := hfrom.cut_from hcut
  have hmargin (t : Text) :
      indentation (a ++ (fromWord ++ t)) = a ∧ trim (a ++ (fromWord ++ t)) ≠ [] :=
    margin_of_word ha (by decide) (by decide)
  have hold : indentation line = a ∧ trim line ≠ [] := by
    rw [hline, List.append_assoc]
    exact hmargin (c :: t)
  have hnew : indentation (withNames line before names) = a ∧
      trim (withNames line before names) ≠ [] := by
    rw [withNames, hbefore, List.append_assoc, List.append_assoc, List.append_assoc,
      List.append_assoc]
    exact hmargin _
  exact keepsLayout_of_isLine hpiece (iff_of_false hnew.2 hold.2) (hnew.1.trans hold.1.symm) hended

/-- A line that opens like an import keeps its layout under the rule for imports. -/
theorem keepsLayout_import {previous : Text} {unused allowed : List Text} {removeAll : Bool}
    (hl : IsLine line) (hopen : OpensImport line)
    (h : Import.filterUnused line unused removeAll allowed previous = .ok piece) :
    KeepsLayout line piece := by
  have hended : EndsLine piece ↔ EndsLine line := by
    refine ⟨?_, endsLine_filterUnused h⟩
    have hadded : '\n' ∉ addedChars := by decide
    intro hend
    by_contra hnot
    rcases mem_of_filterUnused h (List.mem_of_getLast? hend) with hmem | hmem
    · exact isLine_of_not_endsLine hl hnot hmem
    · exact hadded hmem
  have hvisible : trim line ≠ [] := by
    rcases hopen with hword | hword
    all_goals
      obtain ⟨a, after, ha, hline, -⟩ := hword.split
      rw [hline, List.append_assoc]
      exact (margin_of_word ha (by decide) (by decide)).2
  rcases hopen.filterUnused_cases hl h with
    rfl | ⟨a, after, ha, -, hcut, rfl⟩ | ⟨found, -, -, ⟨rfl, -⟩ | ⟨before, after, names, hfrom,
      hcut, rfl, hisLine⟩⟩
  · exact KeepsLayout.refl hl
  · exact keepsLayout_ownLines hl ha hcut
  · exact keepsLayout_passFor hl hvisible
  · exact keepsLayout_withNames hfrom hcut hisLine hended

/-- What stands at the end of a line, put after a text without a line feed, is a line that ends the
same way. -/
theorem isLine_of_suffix {s t a : Text} (hl : IsLine (s ++ t)) (ht : t ≠ []) (ha : '\n' ∉ a) :
    IsLine (a ++ t) ∧ (EndsLine (a ++ t) ↔ EndsLine (s ++ t)) := by
  have hlast := hl.newline_last
  rw [List.dropLast_append_of_ne_nil ht, List.mem_append, not_or] at hlast
  refine ⟨⟨by simp [ht], ?_⟩, ?_⟩
  · rw [List.dropLast_append_of_ne_nil ht, List.mem_append, not_or]
    exact ⟨ha, hlast.2⟩
  · rw [EndsLine, EndsLine, List.getLast?_append_of_ne_nil _ ht,
      List.getLast?_append_of_ne_nil _ ht]

/-- An `except` clause without its name. -/
theorem keepsLayout_except (hl : IsLine line) (h : dropExceptName? line = some piece) :
    KeepsLayout line piece := by
  obtain ⟨front, name, newline, hline, rfl, hfront⟩ := exists_front_of_dropExceptName? h
  have hcut : front.takeWhile isBlank ++ trimLeft front = front :=
    List.takeWhile_append_dropWhile
  have hmargin (t : Text) : indentation (front ++ t) = front.takeWhile isBlank ∧
      trim (front ++ t) ≠ [] := by
    have hvisible : trimLeft (trimLeft front ++ t) = trimLeft front ++ t := by
      apply trimLeft_eq_self
      intro c hc
      rw [List.head?_append_of_ne_nil _ hfront] at hc
      exact trimLeft_head front c hc
    have hmargin' := indentation_append (a := front.takeWhile isBlank)
      (fun c => List.mem_takeWhile_imp) hvisible (by simp [hfront])
    rwa [← List.append_assoc, hcut] at hmargin'
  have hsplit : line = (front ++ (" as ".toList ++ name)) ++ ([':'] ++ newline) := by
    simp [hline]
  have hnewline : '\n' ∉ front := by
    intro hmem
    apply hl.newline_last
    rw [hsplit, List.dropLast_append_of_ne_nil (by simp)]
    exact List.mem_append_left _ (List.mem_append_left _ hmem)
  obtain ⟨hisLine, hended⟩ := isLine_of_suffix (hsplit ▸ hl) (by simp) hnewline
  rw [← hsplit, ← List.append_assoc] at hended
  rw [← List.append_assoc] at hisLine
  have hold : indentation line = front.takeWhile isBlank ∧ trim line ≠ [] := by
    rw [hsplit, List.append_assoc]
    exact hmargin _
  have hnew := hmargin ([':'] ++ newline)
  rw [← List.append_assoc] at hnew
  exact keepsLayout_of_isLine hisLine (iff_of_false hnew.2 hold.2) (hnew.1.trans hold.1.symm) hended

/-- The value of an assignment in the place of the assignment. -/
theorem keepsLayout_value {target rest : Text} (hl : IsLine line)
    (hline : line = target ++ '=' :: rest) (hrest : trim rest ≠ []) :
    KeepsLayout line (indentation line ++ trimLeft rest) := by
  have hvisible : trim line ≠ [] :=
    List.ne_nil_of_mem (mem_trim (c := '=') (by simp [hline]) (by decide))
  have hne : trimLeft rest ≠ [] := by
    intro hnil
    apply hrest
    rw [trim, hnil]
    rfl
  have hsplit : line = (target ++ '=' :: rest.takeWhile isBlank) ++ trimLeft rest := by
    have hcut : rest.takeWhile isBlank ++ trimLeft rest = rest := List.takeWhile_append_dropWhile
    rw [List.append_assoc, List.cons_append, hcut, hline]
  obtain ⟨hisLine, hended⟩ := isLine_of_suffix (hsplit ▸ hl) hne (newline_not_mem_indentation hl)
  rw [← hsplit] at hended
  have hmargin := indentation_append (a := indentation line)
    (fun c => isBlank_of_mem_indentation) (trimLeft_eq_self (trimLeft_head rest)) hne
  exact keepsLayout_of_isLine hisLine (iff_of_false hmargin.2 hvisible) hmargin.1 hended

/-- A line keeps its layout under the rule for variables, if something visible is assigned. -/
theorem keepsLayout_variable {previous : Text} (hl : IsLine line)
    (hvalues : ∀ target rest, line = target ++ '=' :: rest → '=' ∉ target → '=' ∉ rest →
      trim rest ≠ [])
    (h : Variable.filterUnused line previous = .ok piece) : KeepsLayout line piece := by
  rcases Variable.filterUnused_cases h with hexcept | ⟨rest, hassign, -, hpiece⟩ | ⟨-, rfl⟩
  · exact keepsLayout_except hl hexcept
  · obtain ⟨target, hline⟩ := hassign.split
    have hcount := (equals_assignment hassign).1
    have hnot : '=' ∉ target ∧ '=' ∉ rest := by
      rw [hline, List.countP_append, List.countP_cons_of_pos (by simp)] at hcount
      have htarget : target.countP (· == '=') = 0 := by omega
      have hrest : rest.countP (· == '=') = 0 := by omega
      rw [List.countP_eq_zero] at htarget hrest
      exact ⟨fun hmem => htarget '=' hmem rfl, fun hmem => hrest '=' hmem rfl⟩
    have hvisible : trim line ≠ [] :=
      List.ne_nil_of_mem (mem_trim (c := '=') (by simp [hline]) (by decide))
    rcases hpiece with rfl | rfl
    · exact keepsLayout_passFor hl hvisible
    · exact keepsLayout_value hl hline (hvalues target rest hline hnot.1 hnot.2)
  · exact KeepsLayout.refl hl

theorem replaceStars_append (names s t : Text) :
    replaceStars names (s ++ t) = replaceStars names s ++ replaceStars names t := by
  simp [replaceStars]

theorem newline_not_mem_replaceStars {names s : Text} (hnames : '\n' ∉ names) (hs : '\n' ∉ s) :
    '\n' ∉ replaceStars names s := by
  rw [replaceStars, List.mem_flatMap]
  rintro ⟨c, hc, hmem⟩
  split at hmem
  · exact hnames hmem
  · exact hs (List.mem_singleton.mp hmem ▸ hc)

/-- What comes into the place of a star starts visibly, so the indentation stays. -/
theorem margin_replaceStars {names : Text} (hblank : trim line ≠ []) (hne : names ≠ [])
    (hvisible : trimLeft names = names) :
    indentation (replaceStars names line) = indentation line ∧
      trim (replaceStars names line) ≠ [] := by
  obtain ⟨hsplit, htail, -⟩ := exists_margin hblank
  obtain ⟨c, t, ht⟩ := List.exists_cons_of_ne_nil htail
  have hc : isBlank c = false := trimLeft_head line c (by rw [ht]; rfl)
  have hstar : '*' ∉ indentation line :=
    not_mem_of_blank (fun c => isBlank_of_mem_indentation) (by decide)
  have hhead : replaceStars names line =
      indentation line ++ (replaceStars names [c] ++ replaceStars names t) := by
    conv_lhs => rw [hsplit, ht, replaceStars_append, replaceStars_eq_self (Or.inl hstar),
      ← List.singleton_append, replaceStars_append]
  -- The first visible character is a star or stays.
  have hfirst : replaceStars names [c] ≠ [] ∧
      ∀ d ∈ (replaceStars names [c]).head?, isBlank d = false := by
    rw [replaceStars, List.flatMap_singleton]
    split
    · refine ⟨hne, fun d hd => trimLeft_head names d ?_⟩
      rwa [hvisible]
    · simpa using hc
  rw [hhead]
  apply indentation_append (fun c => isBlank_of_mem_indentation) _ (by simp [hfirst.1])
  apply trimLeft_eq_self
  intro d hd
  rw [List.head?_append_of_ne_nil _ hfirst.1] at hd
  exact hfirst.2 d hd

/-- A line keeps its layout if each of its stars gives way to a text that starts visibly and has no
line feed. -/
theorem keepsLayout_replaceStars {names : Text} (hl : IsLine line) (hne : names ≠ [])
    (hvisible : trimLeft names = names) (hnewline : '\n' ∉ names) :
    KeepsLayout line (replaceStars names line) := by
  by_cases hblank : trim line = []
  · -- A blank line has no star.
    have hstar : '*' ∉ line := not_mem_of_blank (trim_eq_nil_iff.mp hblank) (by decide)
    rw [replaceStars_eq_self (Or.inl hstar)]
    exact KeepsLayout.refl hl
  · have hmargin := margin_replaceStars hblank hne hvisible
    rcases hl.cases with ⟨s, hs, hline⟩ | hnot
    · have hpiece : replaceStars names line = replaceStars names s ++ ['\n'] := by
        rw [hline, replaceStars_append]
        rfl
      refine keepsLayout_of_isLine ?_ (iff_of_false hmargin.2 hblank) hmargin.1 (iff_of_true ?_ ?_)
      · rw [hpiece]
        exact isLine_append (newline_not_mem_replaceStars hnewline hs)
      · rw [hpiece]
        exact endsLine_append _
      · rw [hline]
        exact endsLine_append s
    · have hnone := newline_not_mem_replaceStars hnewline hnot
      refine keepsLayout_of_isLine ?_ (iff_of_false hmargin.2 hblank) hmargin.1 (iff_of_false ?_ ?_)
      · apply isLine_of_not_mem _ hnone
        intro hnil
        rw [hnil] at hmargin
        exact hmargin.2 rfl
      · exact fun h => hnone (List.mem_of_getLast? h)
      · exact fun h => hnot (List.mem_of_getLast? h)

/-- A line keeps its layout under the rule for stars, if there are names to write and they are
identifiers. -/
theorem keepsLayout_star {names : List Text} (hl : IsLine line) (hne : names ≠ [])
    (hnames : ∀ name ∈ names, IsIdentifier name) (h : expand line names = .ok piece) :
    KeepsLayout line piece := by
  rw [expand_of_plain (fun name hname => (hnames name hname).not_mem (by decide)) h]
  have hmem {name : Text} : name ∈ sortDistinct names ↔ name ∈ names := by
    rw [sortDistinct, (sort_perm _).mem_iff, List.mem_eraseDups]
  obtain ⟨first, others, hsorted⟩ : ∃ first others, sortDistinct names = first :: others := by
    obtain ⟨name, hname⟩ := List.exists_mem_of_ne_nil names hne
    exact List.exists_cons_of_ne_nil (List.ne_nil_of_mem (hmem.mpr hname))
  have hfirst : IsIdentifier first := hnames first (hmem.mp (by simp [hsorted]))
  obtain ⟨c, cs, rfl, -⟩ := id hfirst
  have hc : isBlank c = false := isBlank_of_isIdentifierPart (hfirst.part c (by simp))
  have hjoin : ∃ t, join ", ".toList (sortDistinct names) = c :: t := by
    rw [hsorted]
    cases others with
    | nil => exact ⟨cs, rfl⟩
    | cons second more => exact ⟨_, rfl⟩
  obtain ⟨t, ht⟩ := hjoin
  apply keepsLayout_replaceStars hl
  · rw [ht]
    simp
  · rw [ht]
    exact trimLeft_eq_self (by simpa using hc)
  · exact not_mem_names (by decide) fun name hname => (hnames name hname).not_mem (by decide)

end Pieces

section Lines

variable {options : Options} {ds : List Diagnostic} {source : Text}

/-- A line keeps its layout, whatever its rule, or it is the first of those with a repeated key. -/
theorem keepsLayout_editLine {m : Marks} {number : Nat} {previous line piece : Text}
    (hl : IsLine line) (himports : (number : Int) ∈ m.imports → OpensImport line)
    (hvalues : (number : Int) ∈ m.assignments → ∀ target rest, line = target ++ '=' :: rest →
      '=' ∉ target → '=' ∉ rest → trim rest ≠ [])
    (hstars : (number : Int) ∈ m.stars → m.starNames ≠ [])
    (hnames : ∀ name ∈ m.starNames, IsIdentifier name)
    (h : editLine options m number previous line = .ok piece) :
    KeepsLayout line piece ∨
      piece = [] ∧ (number : Int) ∈ m.keys ∧ ∀ n ∈ m.keys, (number : Int) ≤ n := by
  rw [editLine] at h
  simp only [List.contains_iff_mem] at h
  split at h
  · rw [← Except.ok.inj h]
    exact Or.inl (KeepsLayout.refl hl)
  · split at h
    · rename_i hmem
      exact Or.inl (keepsLayout_import hl (himports hmem) h)
    · split at h
      · rename_i hmem
        exact Or.inl (keepsLayout_variable hl (hvalues hmem) h)
      · split at h
        · rw [DuplicateKey.filterMarked, Except.ok.injEq] at h
          split at h
          · rename_i hleast
            simp only [Bool.and_eq_true, List.contains_iff_mem, List.all_eq_true,
              decide_eq_true_eq] at hleast
            exact Or.inr ⟨h.symm, hleast.1, hleast.2⟩
          · rw [← h]
            exact Or.inl (KeepsLayout.refl hl)
        · split at h
          · rename_i hmem
            exact Or.inl (keepsLayout_star hl (hstars hmem) hnames h)
          · rw [← Except.ok.inj h]
            exact Or.inl (KeepsLayout.refl hl)

theorem mem_unusedVariableLines {k : Int} :
    k ∈ Diagnostic.unusedVariableLines ds ↔ ∃ name, ⟨k, .unusedVariable name⟩ ∈ ds := by
  rw [Diagnostic.unusedVariableLines, List.mem_filterMap]
  constructor
  · rintro ⟨⟨line, problem⟩, hd, hline⟩
    cases problem with
    | unusedVariable name =>
      obtain rfl : line = k := by simpa using hline
      exact ⟨name, hd⟩
    | _ => simp at hline
  · rintro ⟨name, hd⟩
    exact ⟨_, hd, rfl⟩

theorem exists_starUsage_of_mem {name : Text}
    (h : name ∈ (Diagnostic.starUsages ds).map (·.2.1)) :
    ∃ n sources, ⟨n, .starUsage name sources⟩ ∈ ds := by
  simp only [Diagnostic.starUsages, List.mem_map, List.mem_filterMap] at h
  obtain ⟨usage, ⟨⟨line, problem⟩, hd, husage⟩, hname⟩ := h
  cases problem with
  | starUsage found sources =>
    obtain rfl : found = name := by
      rw [← hname, ← Option.some.inj husage]
    exact ⟨line, sources, hd⟩
  | _ => simp at husage

theorem starUsages_ne_nil_of_mem {n : Int} (h : n ∈ markedStars options source ds) :
    Diagnostic.starUsages ds ≠ [] := by
  intro hnil
  simp [markedStars, hnil] at h

/-- With sound diagnostics every line keeps its layout, apart from the first with a repeated key. -/
theorem keepsLayout_of_sound {m : Marks} {i : Nat} {line before piece : Text}
    (hds : Sound source ds) (hm : marks options source ds = .ok m)
    (hline : (lines source)[i]? = some line)
    (h : editLine options m (i + 1) before line = .ok piece) :
    KeepsLayout line piece ∨
      piece = [] ∧ ((i + 1 : Nat) : Int) ∈ m.keys ∧ ∀ n ∈ m.keys, ((i + 1 : Nat) : Int) ≤ n := by
  obtain ⟨himports, -, hstars, hstarNames, hassignments, -⟩ := marks_eq_ok.mp hm
  have hl : IsLine line := (lined_lines source).line line (List.mem_of_getElem? hline)
  refine keepsLayout_editLine hl ?_ ?_ ?_ ?_ h
  · intro hmem
    rw [himports, mem_unusedImportLines] at hmem
    obtain ⟨name, hd⟩ := hmem
    exact hds.imports i line name hd hline
  · intro hmem
    rw [hassignments] at hmem
    split at hmem
    · obtain ⟨name, hd⟩ := mem_unusedVariableLines.mp hmem
      exact hds.values i line name hd hline
    · simp at hmem
  · intro hmem
    rw [hstars] at hmem
    rw [hstarNames, ne_eq, List.map_eq_nil_iff]
    exact starUsages_ne_nil_of_mem hmem
  · intro name hmem
    rw [hstarNames] at hmem
    obtain ⟨n, sources, hd⟩ := exists_starUsage_of_mem hmem
    exact hds.names n name sources hd

theorem exists_repeatedKey_of_mem_keys {m : Marks} (hm : marks options source ds = .ok m) {n : Int}
    (h : n ∈ m.keys) :
    options.removeDuplicateKeys = true ∧ ∃ key, ⟨n, .repeatedKey key⟩ ∈ ds := by
  obtain ⟨-, -, -, -, -, hkeys⟩ := marks_eq_ok.mp hm
  split at hkeys
  · rename_i hremove
    obtain ⟨key, hd, -⟩ := (DuplicateKey.mem_removableLines hkeys).mp h
    exact ⟨hremove, key, hd⟩
  · rw [← Except.ok.inj hkeys] at h
    simp at h

/-- Every line gives one piece, and the pieces have the layout of their lines; only one line can be
deleted, and only for a repeated key. -/
theorem filterCode_keeps_layout {ps : List Text} (hds : Sound source ds)
    (h : filterCode options ds source = .ok ps) :
    ps.length = (lines source).length ∧ ∃ deleted : Option Nat,
      (∀ i ∈ deleted, options.removeDuplicateKeys = true ∧
        ∃ key, ⟨i + 1, .repeatedKey key⟩ ∈ ds) ∧
      ∀ i line piece, (lines source)[i]? = some line → ps[i]? = some piece →
        if i ∈ deleted then piece = [] else KeepsLayout line piece := by
  obtain ⟨m, hm, hedits⟩ := filterCode_eq_ok.mp h
  obtain ⟨hlen, hall⟩ := editLines_eq_ok.mp hedits
  have hpiece : ∀ i line piece, (lines source)[i]? = some line → ps[i]? = some piece →
      KeepsLayout line piece ∨
        piece = [] ∧ ((i + 1 : Nat) : Int) ∈ m.keys ∧ ∀ n ∈ m.keys, ((i + 1 : Nat) : Int) ≤ n := by
    intro i line piece hline hpiece
    obtain ⟨before, hbefore⟩ : ∃ before, ([] :: lines source)[i]? = some before := by
      obtain ⟨hi, -⟩ := List.getElem?_eq_some_iff.mp hline
      exact ⟨_, List.getElem?_eq_getElem (by simp; omega)⟩
    have hedit := hall i line before piece hline hbefore hpiece
    rw [Nat.add_comm] at hedit
    exact keepsLayout_of_sound hds hm hline hedit
  refine ⟨hlen, ?_⟩
  by_cases hdeleted : ∃ i, i < ps.length ∧ ((i + 1 : Nat) : Int) ∈ m.keys ∧
      (∀ n ∈ m.keys, ((i + 1 : Nat) : Int) ≤ n) ∧ ps[i]? = some []
  · obtain ⟨j, -, hmem, hleast, hempty⟩ := hdeleted
    refine ⟨some j, ?_, ?_⟩
    · rintro i ⟨⟩
      exact exists_repeatedKey_of_mem_keys hm hmem
    · intro i line piece hline hpiece'
      split
      · rename_i hij
        obtain rfl : j = i := Option.some.inj hij
        exact (Option.some.inj (hempty.symm.trans hpiece')).symm
      · rename_i hij
        -- The least number is one number, so that only one line can be the first.
        refine (hpiece i line piece hline hpiece').resolve_right ?_
        rintro ⟨-, hmem', hleast'⟩
        have hle := hleast _ hmem'
        have hle' := hleast' _ hmem
        apply hij
        rw [Option.mem_def, Option.some.injEq]
        omega
  · -- No piece is empty for a repeated key, so that every line has kept its layout.
    refine ⟨none, by simp, ?_⟩
    intro i line piece hline hpiece'
    rw [if_neg (by simp)]
    refine (hpiece i line piece hline hpiece').resolve_right ?_
    rintro ⟨rfl, hmem, hleast⟩
    exact hdeleted ⟨i, (List.getElem?_eq_some_iff.mp hpiece').1, hmem, hleast, hpiece'⟩

end Lines

/-- Lines for all the rules, at several depths, the last one without a line feed. -/
def layoutSource : Text :=
  ["from lib import *\n", "def f():\n", "    from os import path, sep\n", "    x = g(p)\n",
    "    try:\n", "        h()\n", "    except E as e:\n", "        return \x7b\n",
    "            1: 2,\n", "            1: 3,\n", "        \x7d\n", "import os"].flatMap String.toList

def layoutDiagnostics : List Diagnostic :=
  [⟨1, .starImport "lib".toList⟩, ⟨4, .starUsage "p".toList "lib".toList⟩,
    ⟨3, .unusedImport "os.sep".toList⟩, ⟨4, .unusedVariable "x".toList⟩,
    ⟨7, .unusedVariable "e".toList⟩, ⟨9, .repeatedKey (.constant (.int 1))⟩,
    ⟨10, .repeatedKey (.constant (.int 1))⟩, ⟨12, .unusedImport "os".toList⟩]

theorem sound_layoutDiagnostics : Sound layoutSource layoutDiagnostics := by
  refine ⟨?_, ?_, ?_⟩
  · intro i line name hd hline
    have hi : i = 2 ∨ i = 11 := by
      simp [layoutDiagnostics] at hd
      omega
    rcases hi with rfl | rfl
    · obtain rfl : "    from os import path, sep\n".toList = line :=
        Option.some.inj (Eq.trans (by decide +kernel) hline)
      decide +kernel
    · obtain rfl : "import os".toList = line :=
        Option.some.inj (Eq.trans (by decide +kernel) hline)
      decide +kernel
  · intro i line name hd hline target rest hcut htarget _
    have hi : i = 3 ∨ i = 6 := by
      simp [layoutDiagnostics] at hd
      omega
    rcases hi with rfl | rfl
    · obtain rfl : "    x = g(p)\n".toList = line :=
        Option.some.inj (Eq.trans (by decide +kernel) hline)
      have hrest := congrArg (List.dropWhile (· != '=')) hcut
      rw [List.dropWhile_append_of_pos (by simpa using fun c hc => ne_of_mem_of_not_mem hc htarget)]
        at hrest
      obtain rfl : " g(p)\n".toList = rest := by simpa using hrest
      decide
    · obtain rfl : "    except E as e:\n".toList = line :=
        Option.some.inj (Eq.trans (by decide +kernel) hline)
      have hequals : '=' ∉ "    except E as e:\n".toList := by decide
      exact absurd (by simp [hcut]) hequals
  · intro n name sources hd
    obtain rfl : name = "p".toList := by
      simp [layoutDiagnostics] at hd
      exact hd.2.1
    exact ⟨'p', [], rfl, by decide, by simp⟩

theorem filterCode_keeps_layout_all_rules :
    ∃ ps, filterCode ⟨[], true, true, true, true⟩ layoutDiagnostics layoutSource = .ok ps ∧
      ps = ["from lib import p\n", "def f():\n", "    from os import path\n", "    g(p)\n",
        "    try:\n", "        h()\n", "    except E:\n", "        return \x7b\n", "",
        "            1: 3,\n", "        \x7d\n", "pass"].map String.toList ∧
      Sound layoutSource layoutDiagnostics ∧
      ∃ deleted : Option Nat, ∀ i line piece, (lines layoutSource)[i]? = some line →
        ps[i]? = some piece → if i ∈ deleted then piece = [] else KeepsLayout line piece := by
  have hps := eq_ok_of_toOption (x := filterCode ⟨[], true, true, true, true⟩ layoutDiagnostics
    layoutSource) (a := ["from lib import p\n", "def f():\n", "    from os import path\n",
      "    g(p)\n", "    try:\n", "        h()\n", "    except E:\n", "        return \x7b\n", "",
      "            1: 3,\n", "        \x7d\n", "pass"].map String.toList) (by decide +kernel)
  obtain ⟨-, deleted, -, hlayout⟩ := filterCode_keeps_layout sound_layoutDiagnostics hps
  exact ⟨_, hps, rfl, sound_layoutDiagnostics, deleted, hlayout⟩

end Pruner.Fix
