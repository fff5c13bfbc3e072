import Pruner.Proofs.Fix.Edits
import Pruner.Proofs.Rule.ImportPieces
import Mathlib.Algebra.Order.BigOperators.Group.List

namespace Pruner.Fix

open Pruner.Text Pruner.Line Pruner.Import

/-- A line that opens like an import, and on which no name is missing between the commas. -/
structure IsCompleteImport (line : Text) : Prop where
  opens : OpensWith importWord line ∨ OpensWith fromWord line
  named : ∀ before after, cutAtWord? importWord false line = some (before, after) →
    ∀ x ∈ commaPieces after, trim x ≠ []

/-- The characters of a text are those of its pieces and the commas between them. -/
theorem countP_eq_sum_commaPieces (q : Char → Bool) (t : Text) :
    t.countP q = ((commaPieces t).map (List.countP q)).sum +
      ((commaPieces t).length - 1) * [','].countP q := by
  have hjoin : join [','] (commaPieces t) = t := by
    rw [join_eq_intercalate, commaPieces_eq_splitOn]
    exact List.intercalate_splitOn ','
  obtain ⟨x, rest, hx⟩ : ∃ x rest, commaPieces t = x :: rest := by
    rw [commaPieces_eq_splitOn]
    exact List.exists_cons_of_ne_nil (List.splitOn_ne_nil ',' t)
  conv_lhs => rw [← hjoin, hx, countP_join]
  rw [hx]
  simp

theorem sum_commas_commaPieces (t : Text) :
    ((commaPieces t).map (List.countP (· == ','))).sum = 0 := by
  apply List.sum_eq_zero
  intro n hn
  obtain ⟨x, hx, rfl⟩ := List.mem_map.mp hn
  rw [List.countP_eq_zero]
  intro c hc
  simp only [beq_iff_eq]
  rintro rfl
  exact comma_not_mem_piece hx hc

/-- Imports on lines of their own have the visible characters of the clauses. -/
theorem countP_ownLines {line before after : Text} (hbefore : ∀ c ∈ before, isBlank c = true)
    {q : Char → Bool} (hq : ∀ c, isBlank c = true → q c = false)
    (hword : "import ".toList.countP q = 0) :
    (ownLines line before after).flatten.countP q =
      ((commaPieces after).map (List.countP q)).sum := by
  have hterm (x : Text) : (List.countP q ∘ fun x : Text =>
      before ++ "import ".toList ++ trim x ++ ending line) x = x.countP q := by
    simp only [Function.comp_apply, List.countP_append, countP_trim hq, hword,
      countP_eq_zero_of_blank hq hbefore,
      countP_eq_zero_of_blank hq fun c (hc : c ∈ ending line) => isBlank_of_mem_ending hc]
    omega
  rw [List.countP_flatten, ownLines, List.map_map, List.map_congr_left fun x _ => hterm x]
  exact ((sort_perm (commaPieces after)).map _).sum_eq

/-- Imports on lines of their own have no commas. -/
theorem settles_breakUp {line piece : Text} (hopen : OpensWith importWord line)
    (hcomma : ',' ∈ line) (h : breakUp line = .ok piece) : Settles line piece := by
  rcases breakUp_eq_ok h with rfl | ⟨before, after', hcut', rfl⟩
  · exact Settles.refl piece
  · obtain ⟨a, after, ha, hline, hcut⟩ := hopen.cut
    obtain ⟨rfl, rfl⟩ := Prod.mk.inj (Option.some.inj (hcut'.symm.trans hcut))
    have hle {q : Char → Bool} (hq : ∀ c, isBlank c = true → q c = false)
        (hword : "import ".toList.countP q = 0) :
        (ownLines line before after').flatten.countP q ≤ line.countP q := by
      rw [countP_ownLines ha hq hword]
      conv_rhs => rw [hline, List.countP_append, countP_eq_sum_commaPieces q after']
      omega
    apply settles_of_le
    · exact hle (beq_eq_false_of_isBlank (by decide)) (by decide)
    · exact hle (beq_eq_false_of_isBlank (by decide)) (by decide)
    · exact fun hend => Or.inr (endsLine_ownLines hend)
    · rw [innerCost_lt_iff]
      refine Or.inl ?_
      rw [countP_ownLines ha (beq_eq_false_of_isBlank (by decide)) (by decide),
        sum_commas_commaPieces]
      exact List.countP_pos_iff.mpr ⟨',', hcomma, rfl⟩

theorem tidy_of_cut {line before after : Text}
    (hcut : cutAtWord? importWord false line = some (before, after)) :
    tidy line = withNames line before (sort ((commaPieces (trim after)).map trim)) := by
  rw [tidy, hcut]

/-- A line with clauses in sorted order is tidy. -/
theorem tidy_withNames {line before after : Text} {zs : List Text}
    (hcut : cutAtWord? importWord false line = some (before, after)) (hne : zs ≠ [])
    (hzs : ∀ z ∈ zs, IsClause z) (hsorted : sort zs = zs) :
    tidy (withNames line before zs) = withNames line before zs := by
  have hbody : join ", ".toList zs ≠ [] := join_ne_nil hne (fun z hz => (hzs z hz).ne_nil) _
  have hsolid : Solid (join ", ".toList zs) := solid_join hzs _
  have hform : withNames line before zs =
      before ++ importWord ++ (' ' :: (join ", ".toList zs ++ ending line)) := by
    simp [withNames, import_space]
  have hcut' : cutAtWord? importWord false (withNames line before zs) =
      some (before, ' ' :: (join ", ".toList zs ++ ending line)) := by
    rw [hform]
    exact cutAtWord?_replace (by decide) hcut (by change isWord ' ' = false; decide)
  have htrim : trim (' ' :: (join ", ".toList zs ++ ending line)) = join ", ".toList zs := by
    have hspace := trim_append (a := [' ']) (b := ending line) (by simp [isBlank])
      (fun c => isBlank_of_mem_ending) hsolid
    simpa using hspace
  have hend : ending (withNames line before zs) = ending line := by
    apply ending_append
    · rw [List.getLast?_append_of_ne_nil _ hbody]
      exact hsolid.last
    · exact fun c => isBlank_of_mem_ending
  rw [tidy_of_cut hcut', htrim, map_trim_commaPieces_join hne hzs, hsorted, withNames, hend,
    withNames]

theorem countP_withNames {q : Char → Bool} (hq : ∀ c, isBlank c = true → q c = false)
    (line before : Text) {zs : List Text} (hne : zs ≠ []) :
    (withNames line before (sort zs)).countP q =
      before.countP q + importWord.countP q + (zs.map (List.countP q)).sum +
        (zs.length - 1) * [','].countP q := by
  have hspace : q ' ' = false := hq ' ' (by decide)
  have hword : "import ".toList.countP q = importWord.countP q := by
    simp [import_space, hspace]
  have hsep : ", ".toList.countP q = [','].countP q := by
    simp [List.countP_cons, hspace]
  obtain ⟨x, rest, hx⟩ : ∃ x rest, sort zs = x :: rest := by
    apply List.exists_cons_of_ne_nil
    intro hnil
    exact hne ((sort_perm zs).symm.trans (by rw [hnil])).eq_nil
  have hsum := ((sort_perm zs).map (List.countP q)).sum_eq
  have hlen := (sort_perm zs).length_eq
  rw [hx] at hsum hlen
  rw [withNames, List.countP_append, List.countP_append, List.countP_append, hx, countP_join,
    hsum, hword, hsep, countP_eq_zero_of_blank hq fun c => isBlank_of_mem_ending, ← hlen]
  simp only [List.length_cons, Nat.add_sub_cancel]
  omega

theorem countP_erase_trim_le {q : Char → Bool} (hq : ∀ c, isBlank c = true → q c = false)
    (base x : Text) : (Text.erase (base ++ ['.']) (trim x)).countP q ≤ x.countP q := by
  rw [← countP_trim hq x]
  exact (erase_sublist (by simp) (trim x)).countP_le

/-- Dropping names takes no characters in. -/
theorem countP_keptNames_le {q : Char → Bool} (hq : ∀ c, isBlank c = true → q c = false)
    (base after : Text) (unused : List Text) :
    ((keptNames base after unused).map (List.countP q)).sum ≤
      ((commaPieces (trim after)).map (List.countP q)).sum := by
  rw [keptNames, List.map_map]
  apply le_trans
  · exact List.sum_le_sum fun x _ => countP_erase_trim_le hq base x
  · exact (List.filter_sublist.map _).sum_le_sum fun _ _ => Nat.zero_le _

/-- If all names are kept and no visible character goes, the names are the trimmed pieces. -/
theorem keptNames_eq_map_trim {base after : Text} {unused : List Text}
    (hlen : (keptNames base after unused).length = (commaPieces (trim after)).length)
    (hvisible : ((commaPieces (trim after)).map visible).sum ≤
      ((keptNames base after unused).map visible).sum) :
    keptNames base after unused = (commaPieces (trim after)).map trim := by
  have hall : (commaPieces (trim after)).filter
      (fun x => !unused.contains (base ++ ['.'] ++ trim x)) = commaPieces (trim after) := by
    apply List.filter_sublist.eq_of_length
    rwa [keptNames, List.length_map] at hlen
  rw [keptNames, hall] at hvisible ⊢
  rw [List.map_map] at hvisible
  apply List.map_congr_left
  intro x hx
  have hpart : ∃ c ∈ base ++ ['.'], (!isBlank c) = true := ⟨'.', by simp, by decide⟩
  rcases erase_eq_or_countP_lt hpart (trim x) with heq | hlt
  · exact heq
  · -- One name that gets shorter makes the whole sum smaller.
    have hsum : ((commaPieces (trim after)).map
        (visible ∘ fun x => Text.erase (base ++ ['.']) (trim x))).sum <
        ((commaPieces (trim after)).map visible).sum := by
      apply List.sum_lt_sum
      · exact fun y _ => countP_erase_trim_le (by simp) base y
      · refine ⟨x, hx, ?_⟩
        rwa [countP_trim (by simp)] at hlt
    omega

theorem isClause_trim {t x : Text} (hx : x ∈ commaPieces t) (hne : trim x ≠ []) :
    IsClause (trim x) := by
  refine ⟨hne, trim_solid x, ?_⟩
  intro hmem
  obtain ⟨a, b, -, -, hsplit⟩ := exists_trim x
  apply comma_not_mem_piece hx
  rw [hsplit]
  simp [hmem]

theorem untidy_of_isLine {l : Text} (hl : IsLine l) :
    untidy l = if tidy l = l then 0 else 1 := by
  rw [untidy, hl.lines_eq]
  by_cases h : tidy l = l
  · simp [h]
  · simp [h]

/-- A tidied line is tidy, if no name is missing. -/
theorem untidy_tidy {line before after : Text} (hl : IsLine line)
    (hcut : cutAtWord? importWord false line = some (before, after))
    (hnamed : ∀ x ∈ commaPieces after, trim x ≠ []) : untidy (tidy line) = 0 := by
  let names := (commaPieces (trim after)).map trim
  have hnames : names = (commaPieces after).map trim := map_trim_commaPieces_trim after
  have hne : sort names ≠ [] := by
    intro hnil
    have hlen := (sort_perm names).length_eq
    rw [hnil, hnames, List.length_map, commaPieces, length_pieces] at hlen
    simp at hlen
  have hclause : ∀ z ∈ sort names, IsClause z := by
    intro z hz
    rw [(sort_perm names).mem_iff, hnames] at hz
    obtain ⟨x, hx, rfl⟩ := List.mem_map.mp hz
    exact isClause_trim hx (hnamed x hx)
  have hline : IsLine (withNames line before (sort names)) := by
    apply isLine_withNames hl hcut
    intro z hz
    rw [(sort_perm names).mem_iff, hnames] at hz
    obtain ⟨x, hx, rfl⟩ := List.mem_map.mp hz
    exact newline_not_mem_clause hl hcut hx
  rw [tidy_of_cut hcut, untidy_of_isLine hline, if_pos]
  exact tidy_withNames hcut hne hclause (sort_sort names)

section Kept

variable {line before after base : Text} {unused : List Text} {q : Char → Bool}

/-- The characters of an import line: those before `import`, of that word and of the names, and the
commas between the names. -/
theorem countP_of_cut (hq : ∀ c, isBlank c = true → q c = false)
    (hcut : cutAtWord? importWord false line = some (before, after)) :
    line.countP q = before.countP q + importWord.countP q +
      ((commaPieces (trim after)).map (List.countP q)).sum +
        ((commaPieces (trim after)).length - 1) * [','].countP q := by
  conv_lhs => rw [(cutAtWord?_eq_some hcut).1, List.countP_append, List.countP_append,
    ← countP_trim hq after, countP_eq_sum_commaPieces q (trim after)]
  omega

theorem length_keptNames_le (base after : Text) (unused : List Text) :
    (keptNames base after unused).length ≤ (commaPieces (trim after)).length := by
  rw [keptNames, List.length_map]
  exact List.length_filter_le _ _

/-- The line with the names that are kept has no more visible characters of any kind. -/
theorem countP_withNames_le (hq : ∀ c, isBlank c = true → q c = false)
    (hcut : cutAtWord? importWord false line = some (before, after))
    (hne : keptNames base after unused ≠ []) :
    (withNames line before (sort (keptNames base after unused))).countP q ≤ line.countP q := by
  rw [countP_withNames hq line before hne, countP_of_cut hq hcut]
  have hsum := countP_keptNames_le hq base after unused
  have hmul := Nat.mul_le_mul_right ([','].countP q)
    (Nat.sub_le_sub_right (length_keptNames_le base after unused) 1)
  omega

/-- With a name a comma goes. -/
theorem commas_withNames_lt (hcut : cutAtWord? importWord false line = some (before, after))
    (hne : keptNames base after unused ≠ [])
    (hless : (keptNames base after unused).length ≠ (commaPieces (trim after)).length) :
    (withNames line before (sort (keptNames base after unused))).countP (· == ',') <
      line.countP (· == ',') := by
  have hq : ∀ c, isBlank c = true → (c == ',') = false := beq_eq_false_of_isBlank (by decide)
  have hpos := List.length_pos_of_ne_nil hne
  have hlen := length_keptNames_le base after unused
  have hsum := countP_keptNames_le hq base after unused
  rw [countP_withNames hq line before hne, countP_of_cut hq hcut, sum_commas_commaPieces]
  rw [sum_commas_commaPieces] at hsum
  simp only [List.countP_singleton, beq_self_eq_true, ↓reduceIte]
  omega

/-- If no name goes and no visible character, then what is left is the tidied line. -/
theorem withNames_eq_tidy (hcut : cutAtWord? importWord false line = some (before, after))
    (hne : keptNames base after unused ≠ [])
    (hall : (keptNames base after unused).length = (commaPieces (trim after)).length)
    (hsame : visible line ≤
      visible (withNames line before (sort (keptNames base after unused)))) :
    withNames line before (sort (keptNames base after unused)) = tidy line := by
  have hkept : keptNames base after unused = (commaPieces (trim after)).map trim := by
    apply keptNames_eq_map_trim hall
    have hq : ∀ c, isBlank c = true → (!isBlank c) = false := by simp
    rw [visible, visible, countP_withNames hq line before hne, countP_of_cut hq hcut, hall] at hsame
    have hfun : visible = List.countP (!isBlank ·) := rfl
    rw [hfun]
    omega
  rw [tidy_of_cut hcut, hkept]

/-- Dropping names uses up commas or visible characters, or tidies the line. -/
theorem innerCost_withNames_lt (hl : IsLine line) (hc : IsCompleteImport line)
    (hcut : cutAtWord? importWord false line = some (before, after))
    (hne : keptNames base after unused ≠ [])
    (hchanged : withNames line before (sort (keptNames base after unused)) ≠ line) :
    innerCost (withNames line before (sort (keptNames base after unused))) < innerCost line := by
  have hcommas := countP_withNames_le (q := (· == ',')) (beq_eq_false_of_isBlank (by decide))
    hcut hne
  rw [innerCost_lt_iff]
  by_cases hall : (keptNames base after unused).length = (commaPieces (trim after)).length
  · by_cases hless : visible (withNames line before (sort (keptNames base after unused))) <
        visible line
    · omega
    · have hvisible := countP_withNames_le (q := (!isBlank ·)) (by simp) hcut hne
      have htidy := withNames_eq_tidy hcut hne hall (by omega)
      have hzero := untidy_tidy hl hcut (hc.named before after hcut)
      have hone : untidy line = 1 := by
        rw [untidy_of_isLine hl, if_neg]
        rwa [← htidy]
      rw [htidy] at hcommas hvisible hless ⊢
      rw [hzero, hone]
      simp only [visible] at hless ⊢
      omega
  · exact Or.inl (commas_withNames_lt hcut hne hall)

end Kept

theorem settles_filterFrom {line piece : Text} {unused : List Text} (hl : IsLine line)
    (hc : IsCompleteImport line) (hbig : 4 < visible line)
    (h : filterFrom line unused = .ok piece) : Settles line piece := by
  obtain ⟨before, after, base, hcut, -, rfl⟩ := filterFrom_eq_ok h
  split
  · exact settles_passFor hbig
  · rename_i hne
    by_cases hsame : withNames line before (sort (keptNames base after unused)) = line
    · rw [hsame]
      exact Settles.refl line
    · apply settles_of_le
      · exact countP_withNames_le (beq_eq_false_of_isBlank (by decide)) hcut hne
      · exact countP_withNames_le (beq_eq_false_of_isBlank (by decide)) hcut hne
      · exact fun hend => Or.inr (hend.append_ending _)
      · exact innerCost_withNames_lt hl hc hcut hne hsame

/-- An import line whose package can be read has more than four visible characters. -/
theorem visible_of_package {line : Text} {found : Option Text}
    (hopen : OpensWith importWord line ∨ OpensWith fromWord line)
    (h : package line = .ok found) : 4 < visible line := by
  have hcount {word a after : Text} (hline : line = a ++ word ++ after) :
      visible word + visible after ≤ visible line := by
    rw [hline]
    simp only [visible, List.countP_append]
    omega
  rcases hopen with hopen | hopen
  · obtain ⟨a, after, -, hline, -⟩ := hopen.split
    have hword : visible importWord = 6 := by decide
    have := hcount hline
    omega
  · obtain ⟨a, after, ha, hline, -⟩ := hopen.split
    have hword : visible fromWord = 4 := by decide
    have hafter : 0 < visible after := by
      by_contra hzero
      -- With nothing but blanks after `from` there is no second word.
      have hblank : ∀ c ∈ after, isBlank c = true := by
        intro c hc
        by_contra hvisible
        exact hzero (List.countP_pos_iff.mpr ⟨c, hc, by simpa using hvisible⟩)
      have hwords : words line = [fromWord] := by
        rw [hline]
        exact words_between_blanks ha hblank (by decide)
          fun c hc => isBlank_eq_false_of_all (by decide) hc
      rw [package, hwords] at h
      split at h
      · simp at h
      · simp [hopen.isFrom] at h
    have := hcount hline
    omega

theorem settles_filterUnused {line previous piece : Text} {unused allowed : List Text}
    {removeAll : Bool} (hl : IsLine line)
    (hc : isPartialImport line previous = false → IsCompleteImport line)
    (h : filterUnused line unused removeAll allowed previous = .ok piece) : Settles line piece := by
  rcases filterUnused_cases h with
    rfl | ⟨hwhole, ⟨hcomma, hnot, hsplit⟩ | ⟨found, hfound, -, hpiece⟩⟩
  · exact Settles.refl piece
  · exact settles_breakUp (OpensImport.opensWith_import (hc hwhole).opens hnot) hcomma hsplit
  · have hbig := visible_of_package (hc hwhole).opens hfound
    rcases hpiece with ⟨-, hfilter⟩ | ⟨-, rfl⟩
    · exact settles_filterFrom hl (hc hwhole) hbig hfilter
    · exact settles_passFor hbig

end Pruner.Fix
