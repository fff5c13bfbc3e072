import Pruner.Proofs.Rule.UselessPass

namespace Pruner.Token

open Pruner.Text

/-- Neither a quote nor a bracket nor a backslash. -/
def isPlain (c : Char) : Bool :=
  !List.contains ['\'', '"', '\\', '(', ')', '[', ']', '\x7b', '\x7d'] c

/-- A line that starts in the first column and is read without a look at other lines. -/
structure Flat (line : Text) : Prop where
  start : ∃ c ∈ line.head?, isBlank c = false ∧ c ≠ '#'
  plain : ∀ c ∈ line, isPlain c = true

theorem isQuote_of_isPlain {c : Char} (h : isPlain c = true) : isQuote c = false := by
  simp only [isPlain, List.contains_cons, Bool.not_eq_true', Bool.or_eq_false_iff] at h
  simp [isQuote, h]

theorem depthAfter_of_isPlain {text : Text} (h : ∀ c ∈ text.head?, isPlain c = true) (depth : Int) :
    depthAfter depth text = depth := by
  cases text with
  | nil => rfl
  | cons c cs =>
    have hc := h c rfl
    simp only [isPlain, List.contains_cons, Bool.not_eq_true', Bool.or_eq_false_iff] at hc
    simp [depthAfter, hc]

/-- The shapes of strings. -/
def isStringShape : Shape → Bool
  | .quoted => true
  | .tripleQuote _ => true
  | .unclosed _ => true
  | _ => false

theorem shape?_of_unquoted {c : Char} {cs : Text} {shape : Shape} {n : Nat}
    (h : Unquoted (c :: cs)) (hshape : shape? (c :: cs) = some (shape, n)) :
    isStringShape shape = false := by
  rw [shape?, stringMarkRun_of_unquoted h] at hshape
  dsimp only [Option.bind] at hshape
  repeat' split at hshape
  all_goals simp only [Option.some.injEq, Prod.mk.injEq, reduceCtorEq] at hshape
  all_goals
    obtain ⟨rfl, -⟩ := hshape
    rfl

/-- In a text of plain characters the reader keeps its depth and holds no string. -/
theorem move_of_plain (depth : Int) {c : Char} {cs : Text} (h : ∀ d ∈ c :: cs, isPlain d = true) :
    (∃ n, move depth c cs = .skip n) ∨ ∃ kind text n, move depth c cs = .emit kind text depth n := by
  have hsuffix := List.drop_suffix ((c :: cs).takeWhile isInnerBlank).length (c :: cs)
  rw [move]
  generalize (c :: cs).drop ((c :: cs).takeWhile isInnerBlank).length = body at hsuffix
  have hplain : ∀ d ∈ body, isPlain d = true := fun d hd => h d (hsuffix.subset hd)
  cases hshape : shape? body with
  | none => exact Or.inr ⟨_, _, _, rfl⟩
  | some found =>
    obtain ⟨shape, n⟩ := found
    cases body with
    | nil =>
      obtain ⟨rfl, -⟩ := Prod.mk.inj (Option.some.inj hshape)
      exact Or.inl ⟨_, rfl⟩
    | cons d ds =>
      have hstring := shape?_of_unquoted (fun e he => isQuote_of_isPlain (hplain e he)) hshape
      have hcases := shape?_cases hshape
      cases shape with
      | finish => exact Or.inl ⟨_, rfl⟩
      | joiner =>
        obtain rfl : d = '\\' := by simpa using hcases
        have hslash := hplain '\\' (by simp)
        simp [isPlain] at hslash
      | tripleQuote quote => simp [isStringShape] at hstring
      | unclosed quote => simp [isStringShape] at hstring
      | op =>
        dsimp only
        rw [depthAfter_of_isPlain fun e he => hplain e (List.mem_of_mem_take (List.mem_of_head? he))]
        exact Or.inr ⟨_, _, _, rfl⟩
      | _ => exact Or.inr ⟨_, _, _, rfl⟩

theorem scanLine_plain {row : Nat} {line : Text} (depth : Int) {t : Text}
    (h : ∀ c ∈ t, isPlain c = true) : (scanLine row line 0 depth t).2 = ⟨depth, false, none⟩ := by
  refine line_moves (P := fun depth t _ ending => (∀ c ∈ t, isPlain c = true) →
    ending = ⟨depth, false, none⟩) ?_ ?_ ?_ ?_ ?_ depth t h
  · intro _ _
    rfl
  · intro _ c cs n _ _ _ ih hplain
    exact ih fun d hd => hplain d (List.mem_cons_of_mem c (List.mem_of_mem_drop hd))
  · intro depth c cs n _ _ hmove _ hplain
    rcases move_of_plain depth hplain with ⟨k, hk⟩ | ⟨kind, text, k, hk⟩ <;> simp [hk] at hmove
  · intro depth c cs text triple quote hmove hplain
    rcases move_of_plain depth hplain with ⟨k, hk⟩ | ⟨kind, text', k, hk⟩ <;> simp [hk] at hmove
  · intro depth c cs kind text depth' n _ _ hmove ih hplain
    obtain rfl : depth = depth' := by
      rcases move_of_plain depth hplain with ⟨k, hk⟩ | ⟨kind', text', k, hk⟩ <;> simp [hk] at hmove
      exact hmove.2.2.1
    exact ih fun d hd => hplain d (List.mem_cons_of_mem c (List.mem_of_mem_drop hd))

theorem Flat.hasStatement {line : Text} (h : Flat line) :
    HasStatement line ∧ content line = line ∧ column line = 0 := by
  obtain ⟨c, hc, hblank, hhash⟩ := h.start
  obtain ⟨cs, rfl⟩ := List.head?_eq_some_iff.mp hc
  have hinner : isInnerBlank c = false := by
    by_contra hinner
    rw [Bool.not_eq_false] at hinner
    simp [isBlank_of_isInnerBlank hinner] at hblank
  have hcontent : content (c :: cs) = c :: cs := by
    rw [content, List.dropWhile_cons, hinner]
    rfl
  refine ⟨⟨c, by simp [hcontent], hhash, ?_, ?_⟩, hcontent, ?_⟩
  · rintro rfl
    simp [isBlank] at hblank
  · rintro rfl
    simp [isBlank] at hblank
  · have hmargin : margin (c :: cs) = [] := by
      rw [margin, List.takeWhile_cons, hinner]
      rfl
    rw [column, measureIndent_eq, hmargin]
    rfl

/-- A flat line leaves the reader as it was at the start. -/
theorem Flat.step {line : Text} (h : Flat line) (row : Nat) :
    step {} row line = .more (scanLine row line 0 0 line).1 {} := by
  obtain ⟨hstatement, hcontent, hcolumn⟩ := h.hasStatement
  rw [UselessPass.step_of_ready sane_initial rfl rfl]
  rcases scanStatement_cases {} row line with ⟨hnil, -⟩ | ⟨-, hnot, -⟩ | ⟨-, hmore⟩
  · obtain ⟨c, hc, -⟩ := hstatement
    simp [hnil] at hc
  · exact absurd hstatement hnot
  · rw [hmore, hcontent, scanLine_plain 0 h.plain, blockTokens, blockColumns, hcolumn]
    rfl

theorem reach_flat {ls : List Text} (h : ∀ l ∈ ls, Flat l) (row : Nat) :
    ∃ tokens, reach {} row ls = some (tokens, {}) ∧
      ∀ t ∈ tokens, t.kind ≠ .indent ∧ t.line ∈ ls := by
  induction ls generalizing row with
  | nil => exact ⟨[], rfl, by simp⟩
  | cons line rest ih =>
    obtain ⟨tokens, hreach, htokens⟩ := ih (fun l hl => h l (by simp [hl])) (row + 1)
    refine ⟨(scanLine row line 0 0 line).1 ++ tokens, ?_, fun t ht => ?_⟩
    · rw [reach, (h line (by simp)).step row]
      simp [hreach]
    · rcases List.mem_append.mp ht with ht | ht
      · obtain ⟨-, hline, hlayout⟩ := scanLine_tokens 0 line t ht
        refine ⟨fun hkind => ?_, by simp [hline]⟩
        simp [hkind, isLayout] at hlayout
      · exact ⟨(htokens t ht).1, by simp [(htokens t ht).2]⟩

theorem error_flat {ls : List Text} (h : ∀ l ∈ ls, Flat l) (row : Nat) (last : Text) :
    (scanLines {} row last ls).error = none := by
  obtain ⟨tokens, hreach, -⟩ := reach_flat h row
  rw [← List.append_nil ls, scanLines_of_reach hreach]
  rfl

/-- The first token of a line that consists of a `pass`. -/
theorem Flat.scanLine_pass {line : Text} (h : Flat line) (hpass : trim line = passWord)
    (row : Nat) :
    ∃ more, (scanLine row line 0 0 line).1 = ⟨.name, passWord, row, line⟩ :: more := by
  obtain ⟨-, hcontent, -⟩ := h.hasStatement
  obtain ⟨a, b, ha, hb, hsplit⟩ := exists_trim line
  rw [hpass] at hsplit
  obtain rfl : a = [] := by
    obtain ⟨c, hc, hblank, -⟩ := h.start
    cases a with
    | nil => rfl
    | cons d a =>
      obtain rfl : d = c := by simpa [hsplit] using hc
      simp [ha d (by simp)] at hblank
  have hscan := scanLine_passWord row line 0 (hcontent.trans hsplit) hb
  exact ⟨_, congrArg Prod.fst hscan⟩

theorem backslash_mem_of_isJoined {line : Text} (h : Line.isJoined line = true) : '\\' ∈ line := by
  rw [Line.isJoined, endsWith, List.isSuffixOf_iff_suffix] at h
  rw [← trimRight_append_ending line]
  exact List.mem_append_left _ (h.subset (by simp))

theorem Flat.not_joined {line : Text} (h : Flat line) : Line.isJoined line = false := by
  by_contra hjoined
  rw [Bool.not_eq_false] at hjoined
  have hplain := h.plain _ (backslash_mem_of_isJoined hjoined)
  simp [isPlain] at hplain

end Pruner.Token

namespace Pruner.UselessPass

open Pruner.Text Pruner.Line Pruner.Token

theorem mem_rows_of_notFirst {memory : Memory} {before after : List Token} {t : Token}
    (h : notFirst (before.foldl remember memory) t = true) :
    t.row ∈ rows memory (before ++ t :: after) := by
  rw [rows_append, rows, if_pos h]
  simp

theorem line_foldl_remember {tokens : List Token} (hne : tokens ≠ []) :
    ∃ t ∈ tokens, (tokens.foldl remember {}).line = t.line := by
  cases tokens using List.reverseRecOn with
  | nil => simp at hne
  | append_singleton rest t => exact ⟨t, by simp, by simp [List.foldl_append, remember]⟩

theorem mem_rows_of_trim {ls done rest : List Text} {line : Text} (h : ∀ l ∈ ls, Flat l)
    (hls : ls = done ++ line :: rest) (hpass : trim line = passWord) :
    1 + done.length ∈ rows {} (scanLines {} 1 [] ls).tokens := by
  have hflat : ∀ l ∈ done, Flat l := fun l hl => h l (by simp [hls, hl])
  obtain ⟨tokens, hreach, htokens⟩ := reach_flat hflat 1
  have hline : Flat line := h line (by simp [hls])
  obtain ⟨more, hmore⟩ := hline.scanLine_pass hpass (1 + done.length)
  have hscan : (scanLines {} 1 [] ls).tokens =
      tokens ++ ⟨.name, passWord, 1 + done.length, line⟩ ::
        (more ++ (scanLines {} (1 + done.length + 1) line rest).tokens) := by
    rw [hls, scanLines_of_reach hreach]
    simp [scanLines, hline.step, hmore]
  rw [hscan]
  refine mem_rows_of_notFirst (t := ⟨.name, passWord, 1 + done.length, line⟩) ?_
  -- No block has opened before, and the last line was not joined to this one.
  have hkind : (tokens.foldl remember {}).kind ≠ some .indent := by
    rw [kind_foldl_remember]
    intro hindent
    obtain ⟨t, ht, hkind⟩ := Option.map_eq_some_iff.mp hindent
    exact (htokens t (List.mem_of_getLast? ht)).1 hkind
  have hjoined : isJoined (tokens.foldl remember {}).line = false := by
    by_cases hne : tokens = []
    · rw [hne]
      rfl
    · obtain ⟨t, ht, hmemory⟩ := line_foldl_remember hne
      rw [hmemory]
      exact (h t.line (by simp [hls, (htokens t ht).2])).not_joined
  have htoken : isPass ⟨.name, passWord, 1 + done.length, line⟩ = true := by
    simp only [isPass, hpass]
    rfl
  simp [notFirst, htoken, hkind, hjoined]

theorem dropRows_eq_filter {marked : List Nat} {p : Text → Bool} {row : Nat} {ls : List Text}
    (h : ∀ done line rest, ls = done ++ line :: rest →
      marked.contains (row + done.length) = p line) :
    dropRows marked row ls = ls.filter (!p ·) := by
  induction ls generalizing row with
  | nil => rfl
  | cons line rest ih =>
    have hfirst := h [] line rest rfl
    have hrest : dropRows marked (row + 1) rest = rest.filter (!p ·) := ih fun done l more heq => by
      have := h (line :: done) l more (by simp [heq])
      rwa [List.length_cons, ← Nat.add_assoc, Nat.add_right_comm] at this
    rw [List.length_nil, Nat.add_zero] at hfirst
    rw [dropRows, hfirst, hrest, List.filter_cons]
    cases p line <;> rfl

/-- A source without a line that is a `pass` stays as it is. -/
theorem filter_of_no_pass {source : Text} (h : ∀ l ∈ lines source, trim l ≠ passWord) :
    filter source = source := by
  rw [filter, filterLines]
  split
  · rename_i marked hrows
    have hmarked : marked = rows {} (scanLines {} 1 [] (lines source)).tokens :=
      (congrArg Prod.fst hrows).symm
    rw [dropRows_eq_filter (p := fun _ => false)]
    · simp [lines_flatten]
    · intro done line rest hls
      rw [← Bool.not_eq_true, List.contains_iff_mem, hmarked]
      intro hmem
      exact h line (by simp [hls]) (trim_of_mem_rows hls hmem)
  · exact lines_flatten _

/-- From flat lines exactly the lines with a `pass` are removed. -/
theorem filter_flat {ls : List Text} (hlined : Lined ls) (h : ∀ l ∈ ls, Flat l) :
    filter ls.flatten = (ls.filter (trim · != passWord)).flatten := by
  have hscan : scan ls.flatten = scanLines {} 1 [] ls := by
    rw [scan, lines_flatten_of_lined hlined]
  have hrows : rowsOf ls.flatten = (rows {} (scanLines {} 1 [] ls).tokens, none) := by
    rw [rowsOf, hscan, error_flat h]
  rw [filter, filterLines, hrows]
  dsimp only
  rw [lines_flatten_of_lined hlined, dropRows_eq_filter (p := fun l => trim l == passWord)]
  · rfl
  · intro done line rest hls
    rw [Bool.eq_iff_iff, List.contains_iff_mem, beq_iff_eq]
    exact ⟨trim_of_mem_rows hls, mem_rows_of_trim h hls⟩

end Pruner.UselessPass
