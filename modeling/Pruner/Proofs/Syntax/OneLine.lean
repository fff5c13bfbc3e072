import Pruner.Proofs.Syntax.Extent
import Pruner.Proofs.Text.Identifier

/-!
Reading one line, piece by piece.

Every step of the reader inside a line takes a piece off its front: a blank, a comment, or one
lexeme. So the lexemes of a line are related to its text by what each piece may look like, and facts
about a line are read off its lexemes without running the reader again.
-/
namespace Pruner.Syntax

open Pruner.Text Pruner.Token

/-- The lexeme that a word is: a keyword, or an identifier in its normal form. -/
def wordKind? (text : Text) : Option LexemeKind :=
  if text.all (·.toNat < 128) then
    some (if keywords.contains (String.ofList text) then .keyword (String.ofList text)
      else .word (String.ofList text))
  else
    match text with
    | c :: cs =>
      if isIdentifierStart c && cs.all isIdentifierPart then
        some (.word (String.ofList (normalForm text)))
      else none
    | [] => none

/-- A piece of a line before the rest of it, and the lexeme that it is, if it is one. -/
inductive Piece : (piece rest : Text) → Option LexemeKind → Prop
  | blank {c : Char} {rest : Text} (inner : isInnerBlank c = true) : Piece [c] rest none
  | comment {cs : Text} : Piece ('#' :: cs) [] none
  | word {w rest : Text} {kind : LexemeKind} (start : ∃ c ∈ w.head?, isDigit c = false)
      (part : ∀ c ∈ w, isWordPart c = true) (stop : rest.head?.any isWordPart = false)
      (is_kind : wordKind? w = some kind) : Piece w rest (some kind)
  | string {s rest : Text} {mark : StringMark} {body : Text} (quoted : ∃ q ∈ s, isQuote q = true) :
      Piece s rest (some (.string mark body))
  | number {u rest : Text} {value : Constant} (start : ∃ c ∈ u.head?, isDigit c = true ∨ c = '.')
      (visible : ∀ c ∈ u, isBlank c = false) (follow : mayFollowNumber (rest ++ ['\n']) = true)
      (is_value : numberValue? u = some value) : Piece u rest (some (.number value))
  | op {u rest : Text} (visible : ∀ c ∈ u, isBlank c = false)
      (start : u.head?.any isWordPart = false) : Piece u rest (some (.op (String.ofList u)))

/-- A line and its lexemes. -/
inductive Reads : Text → List LexemeKind → Prop
  | nil : Reads [] []
  | cons {piece rest : Text} {kind? : Option LexemeKind} {kinds : List LexemeKind}
      (ne_nil : piece ≠ []) (head : Piece piece rest kind?) (tail : Reads rest kinds) :
      Reads (piece ++ rest) (kind?.toList ++ kinds)

section Step

variable {r r' : Reader} {t : Text} {n : Nat}

theorem word?_eq (r : Reader) (text : Text) : r.word? text = (wordKind? text).map r.add := by
  rw [Reader.word?.eq_def, wordKind?.eq_def]
  dsimp only
  split
  · rfl
  · cases text with
    | nil => rfl
    | cons c cs =>
      dsimp only
      split <;> rfl

theorem isWordPart_newline : isWordPart '\n' = false := by decide

/-- How a reader that has read a piece of a line differs from the one before. -/
structure Reader.Passed (r r' : Reader) (kind? : Option LexemeKind) : Prop where
  inside : r'.atStart = false
  line : r'.line = r.line
  blocks : r'.blocks = r.blocks
  found : r'.found = (kind?.map (⟨·, r.line⟩)).toList ++ r.found

theorem Reader.passed_add {r : Reader} (hr : r.atStart = false) (kind : LexemeKind) :
    r.Passed (r.add kind) (some kind) :=
  ⟨hr, rfl, rfl, rfl⟩

/-- A bracket changes nothing but the open brackets. -/
theorem Reader.bracket?_eq_some {c : Char} (h : r.bracket? c = some r') :
    ∃ brackets, r' = { r with brackets := brackets } := by
  rw [Reader.bracket?.eq_def] at h
  split at h
  · split at h
    · contradiction
    · exact ⟨_, (Option.some.inj h).symm⟩
  · split at h
    · split at h
      · split at h
        · exact ⟨_, (Option.some.inj h).symm⟩
        · contradiction
      · contradiction
    · exact ⟨r.brackets, (Option.some.inj h).symm⟩

/-- The part of a line that a piece of `n` characters takes, and the rest. -/
theorem take_line (h : n ≤ t.length) :
    (t ++ ['\n']).take n = t.take n ∧ (t ++ ['\n']).drop n = t.drop n ++ ['\n'] :=
  ⟨List.take_append_of_le_length h, List.drop_append_of_le_length h⟩

/-- The reader takes a piece of `n` characters off a line. -/
def TakesPiece (r r' : Reader) (t : Text) (n : Nat) : Prop :=
  0 < n ∧ n ≤ t.length ∧ ∃ kind?, Piece (t.take n) (t.drop n) kind? ∧ r.Passed r' kind?

/-- A string, with the letters in front of it, stays before the end of its line. -/
theorem string_piece (hr : r.atStart = false) (hline : '\n' ∉ t) {mark : StringMark}
    {k length : Nat} (hmark : stringMark? (t ++ ['\n']) = some (mark, k))
    (hlength : stringLength? ((t ++ ['\n']).drop k) = some length) :
    TakesPiece r
      { r.add (.string mark (stringBody ((t ++ ['\n']).drop k) length)) with
        line := r.line + ((stringBody ((t ++ ['\n']).drop k) length).filter (· == '\n')).length }
      t (k + length) := by
  obtain ⟨k', hrun, heq⟩ := Option.map_eq_some_iff.mp hmark
  obtain ⟨-, rfl⟩ := Prod.mk.inj heq
  obtain ⟨letters, q, rest, hsplit, rfl, hquote, -⟩ := stringMarkRun_split hrun
  have hbody : (t ++ ['\n']).drop letters.length = q :: rest := by
    rw [hsplit, List.drop_left]
  have hnewline : '\n' ≠ q := by
    rintro rfl
    revert hquote
    decide
  rw [hbody] at hlength
  have hends := (endsAt_stringLength? hlength).append letters
  rw [← hsplit] at hends
  have hle := hends.le hnewline
  have hpos := (endsAt_stringLength? hlength).pos
  refine ⟨by omega, hle, some _, .string ?_, hr, ?_, rfl, rfl⟩
  · obtain ⟨u, v, hcut, hn⟩ := hends
    refine ⟨q, ?_, hquote⟩
    rw [← (take_line hle).1, hcut, hn, List.take_append]
    simp
  · -- The string lies inside the line, so that it has no line feed.
    have hcount :
        (stringBody ((t ++ ['\n']).drop letters.length) length).filter (· == '\n') = [] := by
      rw [List.filter_eq_nil_iff]
      intro c hc
      rw [stringBody] at hc
      have htaken := List.mem_of_mem_drop hc
      rw [(take_line (by omega)).2, List.take_append_of_le_length
        (by rw [List.length_drop]; omega)] at htaken
      have hmem : c ∈ t := List.mem_of_mem_drop (List.mem_of_mem_take htaken)
      rw [beq_iff_eq]
      rintro rfl
      exact hline hmem
    rw [hcount]
    rfl

theorem takeWhile_line {p : Char → Bool} (hp : p '\n' = false) (t : Text) :
    (t ++ ['\n']).takeWhile p = t.takeWhile p := by
  induction t with
  | nil => simp [hp]
  | cons c cs ih =>
    rw [List.cons_append, List.takeWhile_cons, List.takeWhile_cons, ih]

theorem dropWhile_head (p : Char → Bool) (t : Text) : (t.dropWhile p).head?.any p = false := by
  induction t with
  | nil => rfl
  | cons c cs ih =>
    rw [List.dropWhile_cons]
    split
    · exact ih
    · rename_i hc
      simpa using hc

/-- A word is a maximal run of word characters. -/
theorem word_piece (hr : r.atStart = false) {c : Char} {cs : Text} (hc : isWordStart c = true)
    (h : r.word? ((c :: cs ++ ['\n']).takeWhile isWordPart) = some r') :
    TakesPiece r r' (c :: cs) ((c :: cs ++ ['\n']).takeWhile isWordPart).length := by
  rw [isWordStart, Bool.and_eq_true, Bool.not_eq_true'] at hc
  rw [takeWhile_line isWordPart_newline, word?_eq] at *
  obtain ⟨kind, hkind, rfl⟩ := Option.map_eq_some_iff.mp h
  have htake : (c :: cs).take ((c :: cs).takeWhile isWordPart).length =
      (c :: cs).takeWhile isWordPart :=
    (List.prefix_iff_eq_take.mp (List.takeWhile_prefix _)).symm
  have hword : (c :: cs).takeWhile isWordPart = c :: cs.takeWhile isWordPart :=
    List.takeWhile_cons_of_pos hc.1
  refine ⟨by simp [hword], (List.takeWhile_prefix _).length_le, some kind, ?_,
    Reader.passed_add hr kind⟩
  rw [htake, drop_length_takeWhile]
  exact .word ⟨c, by rw [hword]; rfl, hc.2⟩ (fun d hd => List.mem_takeWhile_imp hd)
    (dropWhile_head isWordPart _) hkind

/-- A comment reaches to the end of its line. -/
theorem comment_piece (hr : r.atStart = false) {cs : Text} (hline : '\n' ∉ '#' :: cs) :
    TakesPiece r r ('#' :: cs) (('#' :: cs ++ ['\n']).takeWhile (· != '\n')).length := by
  have hall : ('#' :: cs ++ ['\n']).takeWhile (· != '\n') = '#' :: cs := by
    rw [takeWhile_line (by simp), List.takeWhile_eq_self_iff]
    intro d hd
    rw [bne_iff_ne]
    rintro rfl
    exact hline hd
  rw [hall]
  refine ⟨by simp, le_refl _, none, ?_, hr, rfl, rfl, rfl⟩
  rw [List.take_length, List.drop_length]
  exact .comment

/-- A number is visible to its end, so that it stays before the end of its line. -/
theorem number_piece (hr : r.atStart = false) {c : Char} {cs : Text} {k : Nat} {value : Constant}
    (hstart : isDigit c = true ∨ c = '.') (hlength : numberLength? (c :: cs ++ ['\n']) = some k)
    (hvalue : numberValue? ((c :: cs ++ ['\n']).take k) = some value) :
    TakesPiece r (r.add (.number value)) (c :: cs) k := by
  obtain ⟨hpos, hextent⟩ := isExtent_numberLength? hstart hlength
  have hle : k ≤ (c :: cs).length := Visible.le (by decide) hextent.visible
  obtain ⟨htake, hdrop⟩ := take_line hle
  refine ⟨hpos, hle, some (.number value), .number ?_ ?_ ?_ ?_, Reader.passed_add hr _⟩
  · rw [List.head?_take, if_neg (Nat.ne_of_gt hpos)]
    exact ⟨c, rfl, hstart⟩
  · rw [← htake]
    exact hextent.visible
  · rw [← hdrop]
    exact hextent.follow
  · rw [← htake]
    exact hvalue

/-- An operator is visible to its end, and starts no word. -/
theorem operator_piece (hr : r.atStart = false) {c : Char} {cs : Text}
    (hstart : isWordPart c = false) (hpos : operatorRun (c :: cs ++ ['\n']) ≠ 0)
    (hbracket : r.bracket? c = some r') :
    TakesPiece r
      (r'.add (.op (String.ofList
        ((c :: cs ++ ['\n']).take (operatorRun (c :: cs ++ ['\n']))))))
      (c :: cs) (operatorRun (c :: cs ++ ['\n'])) := by
  obtain ⟨brackets, rfl⟩ := Reader.bracket?_eq_some hbracket
  have hvisible := visible_operatorRun (c :: cs ++ ['\n'])
  have hle : operatorRun (c :: cs ++ ['\n']) ≤ (c :: cs).length :=
    Visible.le (by decide) hvisible
  obtain ⟨htake, -⟩ := take_line hle
  refine ⟨Nat.pos_of_ne_zero hpos, hle, some (.op (String.ofList _)), .op ?_ ?_,
    ⟨hr, rfl, rfl, by rw [← htake]; rfl⟩⟩
  · rw [← htake]
    exact hvisible
  · rw [List.head?_take, if_neg hpos, List.head?_cons, Option.any_some]
    exact hstart

/-- Inside a line the reader takes one piece of it. -/
theorem next?_piece (hr : r.atStart = false) (hne : t ≠ []) (hline : '\n' ∉ t)
    (h : r.next? (t ++ ['\n']) = some (r', n)) : TakesPiece r r' t n := by
  obtain ⟨c, cs, rfl⟩ := List.exists_cons_of_ne_nil hne
  have hc : (c == '\n') = false := by
    rw [List.mem_cons, not_or] at hline
    simpa using Ne.symm hline.1
  rw [List.cons_append, Reader.next?.eq_def] at h
  dsimp only at h
  rw [hr, if_neg Bool.false_ne_true, ← List.cons_append] at h
  split at h
  · rename_i hblank
    obtain ⟨rfl, rfl⟩ := Prod.mk.inj (Option.some.inj h)
    exact ⟨Nat.one_pos, by simp, none, .blank hblank, hr, rfl, rfl, rfl⟩
  split at h
  · rename_i hhash
    obtain ⟨rfl, rfl⟩ := Prod.mk.inj (Option.some.inj h)
    obtain rfl : c = '#' := by simpa using hhash
    exact comment_piece hr hline
  rw [hc, if_neg Bool.false_ne_true] at h
  split at h
  · -- A backslash would have to stand before a line feed that is not the last character.
    split at h
    · rename_i rest hrest
      cases cs with
      | nil =>
        obtain rfl : [] = rest := (List.cons.inj hrest).2
        contradiction
      | cons d ds =>
        obtain rfl : d = '\n' := (List.cons.inj hrest).1
        simp at hline
    · contradiction
  split at h
  · -- Letters may belong to a string that follows them, so that is looked for first.
    rename_i hstart
    split at h
    · rename_i mark k hmark
      obtain ⟨length, hlength, h⟩ := Option.bind_eq_some_iff.mp h
      obtain ⟨rfl, rfl⟩ := Prod.mk.inj (Option.some.inj h)
      exact string_piece hr hline hmark hlength
    · rename_i hmark
      obtain ⟨r'', hword, heq⟩ := Option.map_eq_some_iff.mp h
      obtain ⟨rfl, rfl⟩ := Prod.mk.inj heq
      rw [Bool.or_eq_true] at hstart
      rcases hstart with hstart | hquote
      · exact word_piece hr hstart hword
      · simp [stringMark?, stringMarkRun, hquote] at hmark
  rename_i hstart
  split at h
  · rename_i hnumber
    obtain ⟨k, hk, h⟩ := Option.bind_eq_some_iff.mp h
    obtain ⟨value, hvalue, h⟩ := Option.bind_eq_some_iff.mp h
    obtain ⟨rfl, rfl⟩ := Prod.mk.inj (Option.some.inj h)
    rw [Bool.or_eq_true, Bool.and_eq_true, beq_iff_eq] at hnumber
    exact number_piece hr (hnumber.imp_right And.left) hk hvalue
  · rename_i hnumber
    split at h
    · contradiction
    · rename_i hpos
      obtain ⟨r'', hbracket, h⟩ := Option.bind_eq_some_iff.mp h
      obtain ⟨rfl, rfl⟩ := Prod.mk.inj (Option.some.inj h)
      refine operator_piece hr ?_ hpos hbracket
      -- A word starts with a letter and a number with a digit, and both were tried before.
      simp only [isWordStart, Bool.or_eq_true, Bool.and_eq_true, Bool.not_eq_true', not_or] at *
      by_contra hpart
      exact hstart.1 ⟨by simpa using hpart, by simpa using hnumber.1⟩

end Step

section Run

variable {r r' : Reader} {t : Text}

/-- A run over a line takes a piece and goes on. -/
theorem run?_step (hr : r.atStart = false) (hne : t ≠ []) (hline : '\n' ∉ t)
    (h : Reader.run? 0 r (t ++ ['\n']) = some r') :
    ∃ r'' n, TakesPiece r r'' t n ∧ Reader.run? 0 r'' (t.drop n ++ ['\n']) = some r' := by
  obtain ⟨c, cs, rfl⟩ := List.exists_cons_of_ne_nil hne
  rw [List.cons_append, Reader.run?] at h
  split at h
  · rename_i r'' n hnext
    have hpiece := next?_piece hr hne hline hnext
    refine ⟨r'', n + 1, hpiece, ?_⟩
    have hle : n ≤ cs.length := Nat.le_of_succ_le_succ hpiece.2.1
    have hskip := run?_append r'' (cs.take n) (cs.drop n ++ ['\n'])
    rw [List.length_take_of_le hle, ← List.append_assoc, List.take_append_drop] at hskip
    rw [List.drop_succ_cons, ← hskip]
    exact h
  · rename_i hnext
    exact absurd (next?_piece hr hne hline hnext).1 (lt_irrefl 0)
  · contradiction

/-- A reader inside a line that comes to its end with all brackets closed. -/
theorem run?_newline (hr : r.atStart = false) (h : Reader.run? 0 r ['\n'] = some r')
    (hclosed : r'.brackets = []) :
    r' = { r with
      atStart := true, line := r.line + 1, brackets := [], found := ⟨.newline, r.line⟩ :: r.found } := by
  obtain ⟨line, atStart, blocks, brackets, found⟩ := r
  obtain rfl : atStart = false := hr
  cases brackets with
  | nil => exact (Option.some.inj h).symm
  | cons open' below =>
    -- Inside brackets the end of a line is no lexeme, and the brackets stay open.
    have hopen : open' :: below = r'.brackets := congrArg Reader.brackets (Option.some.inj h)
    rw [hclosed] at hopen
    contradiction

/-- What the reader finds on a line are the lexemes of its pieces. -/
theorem reads_of_run? (hr : r.atStart = false) (hline : '\n' ∉ t)
    (h : Reader.run? 0 r (t ++ ['\n']) = some r') (hclosed : r'.brackets = []) :
    ∃ kinds, Reads t kinds ∧ r'.line = r.line + 1 ∧ r'.blocks = r.blocks ∧
      r'.found = ⟨.newline, r.line⟩ :: ((kinds.map (⟨·, r.line⟩)).reverse ++ r.found) := by
  induction hlength : t.length using Nat.strong_induction_on generalizing t r with
  | _ length ih =>
    by_cases hne : t = []
    · subst hne
      rw [run?_newline hr h hclosed]
      exact ⟨[], .nil, rfl, rfl, rfl⟩
    · obtain ⟨r'', n, ⟨hpos, hle, kind?, hpiece, hpassed⟩, hrest⟩ := run?_step hr hne hline h
      have hline' : '\n' ∉ t.drop n := fun hmem => hline (List.mem_of_mem_drop hmem)
      have hshorter : (t.drop n).length < length := by
        rw [List.length_drop]
        omega
      obtain ⟨kinds, hreads, hline'', hblocks, hfound⟩ :=
        ih _ hshorter hpassed.inside hline' hrest rfl
      refine ⟨kind?.toList ++ kinds, ?_, by rw [hline'', hpassed.line],
        hblocks.trans hpassed.blocks, ?_⟩
      · rw [← List.take_append_drop n t]
        exact .cons (List.ne_nil_of_length_pos (by rw [List.length_take]; omega))
          (by simpa using hpiece) hreads
      · rw [hfound, hpassed.line, hpassed.found]
        cases kind? <;> simp

end Run

section Lex

/-- The ends that a line can have. -/
def lineEnds : List Text := [[], ['\n'], ['\r', '\n'], ['\r']]

/-- One line: no line end inside of it, and at most one after it. -/
structure IsOneLine (body ending : Text) : Prop where
  no_feed : '\n' ∉ body
  no_return : '\r' ∉ body
  ends : ending ∈ lineEnds

variable {body ending : Text} {lexemes : List Lexeme}

/-- Whatever the end of a line, it is read as a line feed. -/
theorem normalizeLineEnds_line (h : IsOneLine body ending) :
    normalizeLineEnds (body ++ ending) = body ++ ['\n'] := by
  have hlast : (body.getLast? == some '\n') = false := by
    rw [beq_eq_false_iff_ne]
    exact fun hlast => h.no_feed (List.mem_of_getLast? hlast)
  have hends := h.ends
  simp only [lineEnds, List.mem_cons, List.not_mem_nil, or_false] at hends
  rw [normalizeLineEnds, normalizeLineEnds.go, List.foldl_append, foldl_lineEnds h.no_return]
  rcases hends with rfl | rfl | rfl | rfl <;> simp [hlast]

/-- A line that starts with something visible is read from its first character on. -/
theorem run?_of_margin {r : Reader} {c : Char} {cs : Text} (hblank : isBlank c = false)
    (hhash : c ≠ '#') (hline : '\n' ∉ c :: cs)
    (h : Reader.run? 0 {} (c :: cs ++ ['\n']) = some r) :
    Reader.run? 0 afterMargin (c :: cs ++ ['\n']) = some r := by
  by_cases hslash : c = '\\'
  · -- A backslash in the margin must stand before a line end, and another line.
    subst hslash
    have hmargin : Margin.measure? {} ('\\' :: (cs ++ ['\n'])) = none := by
      cases cs with
      | nil => rfl
      | cons d ds =>
        rw [List.cons_append, Margin.measure?.eq_def]
        split
        · contradiction
        · rename_i heq
          obtain rfl : d = '\n' := (List.cons.inj (List.cons.inj heq).2).1
          simp at hline
        · rename_i e es heq
          obtain ⟨rfl, -⟩ := List.cons.inj heq
          simp
    rw [List.cons_append, Reader.run?] at h
    simp [Reader.next?, hmargin] at h
  · have hne {d : Char} (hd : isBlank d = true) : c ≠ d := by
      rintro rfl
      rw [hd] at hblank
      contradiction
    have hnext := next?_margin (c := c) (by
      simp only [List.mem_cons, List.not_mem_nil, or_false, not_or]
      exact ⟨hne (by decide), hne (by decide), hne (by decide), hslash, hhash, hne (by decide)⟩)
      (cs ++ ['\n'])
    rw [List.cons_append, Reader.run?, hnext] at h
    rw [List.cons_append, Reader.run?]
    dsimp only at h
    split at h
    · rename_i hfirst
      rw [hfirst]
      exact h
    · contradiction

/-- The lexemes of a line that starts with something visible. -/
theorem reads_of_lex? (h : IsOneLine body ending)
    (hstart : ∃ c ∈ body.head?, isBlank c = false ∧ c ≠ '#')
    (hlex : lex? 1 (body ++ ending) = some lexemes) :
    ∃ kinds, Reads body kinds ∧ lexemes = kinds.map (⟨·, 1⟩) ++ lineEnd := by
  obtain ⟨c, hc, hblank, hhash⟩ := hstart
  obtain ⟨cs, rfl⟩ := List.head?_eq_some_iff.mp hc
  rw [lex?, normalizeLineEnds_line h] at hlex
  dsimp only at hlex
  split at hlex
  · contradiction
  · obtain ⟨r, hrun, hlex⟩ := Option.bind_eq_some_iff.mp hlex
    split at hlex
    · rename_i hclosed
      rw [List.isEmpty_iff] at hclosed
      obtain ⟨kinds, hreads, hline, hblocks, hfound⟩ :=
        reads_of_run? rfl h.no_feed (run?_of_margin hblank hhash h.no_feed hrun) hclosed
      refine ⟨kinds, hreads, ?_⟩
      obtain rfl := Option.some.inj hlex
      rw [hline, hblocks, hfound]
      simp [afterMargin, lineEnd]
    · contradiction

end Lex

section Words

variable {w b : Text} {kind : LexemeKind} {kinds : List LexemeKind}

theorem isWordPart_of_isWord {c : Char} (h : isWord c = true) : isWordPart c = true := by
  by_cases hsmall : c.toNat < 128
  · rw [isWord, if_pos hsmall] at h
    simp only [isWordPart, h, Bool.true_or]
  · simp only [isWordPart, Bool.or_eq_true, decide_eq_true_eq]
    omega

theorem isDigit_iff {c : Char} : isDigit c = true ↔ 48 ≤ c.toNat ∧ c.toNat ≤ 57 := by
  rw [isDigit, Bool.and_eq_true, decide_eq_true_eq, decide_eq_true_eq]
  rfl

/-- A word is a keyword, or no keyword is written like it. -/
theorem wordKind?_cases (h : wordKind? w = some kind) :
    kind = .keyword (String.ofList w) ∧ String.ofList w ∈ keywords ∨
      (∃ id, kind = .word id) ∧ String.ofList w ∉ keywords := by
  rw [wordKind?.eq_def] at h
  split at h
  · obtain rfl := Option.some.inj h
    by_cases hkeyword : String.ofList w ∈ keywords
    · simp [hkeyword]
    · simp [hkeyword]
  · rename_i hwide
    refine Or.inr ⟨?_, ?_⟩
    · split at h
      · split at h
        · exact ⟨_, (Option.some.inj h).symm⟩
        · contradiction
      · contradiction
    · intro hkeyword
      have hascii : keywords.all (·.toList.all (·.toNat < 128)) = true := by decide
      have hw := List.all_eq_true.mp hascii _ hkeyword
      rw [String.toList_ofList] at hw
      exact hwide hw

/-- A word that does not start with a digit is an identifier. -/
theorem isIdentifier_of_wordKind? (hpart : ∀ c ∈ w, isWordPart c = true)
    (hstart : ∃ c ∈ w.head?, isDigit c = false) (h : wordKind? w = some kind) :
    IsIdentifier w := by
  obtain ⟨c, hc, hdigit⟩ := hstart
  obtain ⟨cs, rfl⟩ := List.head?_eq_some_iff.mp hc
  rw [wordKind?.eq_def] at h
  split at h
  · rename_i hascii
    rw [List.all_eq_true] at hascii
    have hcode {d : Char} (hd : d ∈ c :: cs) : isIdentifierPart d = true := by
      have hsmall : d.toNat < 128 := of_decide_eq_true (hascii d hd)
      have hword := hpart d hd
      simp only [isWordPart, Bool.or_eq_true, Bool.and_eq_true, decide_eq_true_eq, beq_iff_eq] at hword
      rw [isIdentifierPart_ascii hsmall]
      omega
    refine ⟨c, cs, rfl, ?_, fun d hd => hcode (List.mem_cons_of_mem c hd)⟩
    have hsmall : c.toNat < 128 := of_decide_eq_true (hascii c (List.mem_cons_self ..))
    have hpart := (isIdentifierPart_ascii hsmall).mp (hcode (List.mem_cons_self ..))
    have hnot : ¬(48 ≤ c.toNat ∧ c.toNat ≤ 57) := by
      rw [← isDigit_iff, hdigit]
      exact Bool.false_ne_true
    simp only [isIdentifierStart, if_pos hsmall, Bool.or_eq_true, Bool.and_eq_true, beq_iff_eq,
      decide_eq_true_eq]
    omega
  · dsimp only at h
    split at h
    · rename_i hparts
      rw [Bool.and_eq_true, List.all_eq_true] at hparts
      exact ⟨c, cs, rfl, hparts⟩
    · contradiction

/-- A word has no blank. -/
theorem isBlank_of_wordKind? (hpart : ∀ c ∈ w, isWordPart c = true) (h : wordKind? w = some kind) :
    ∀ c ∈ w, isBlank c = false := by
  intro c hc
  rw [wordKind?.eq_def] at h
  split at h
  · rename_i hascii
    have hsmall : c.toNat < 128 := of_decide_eq_true (List.all_eq_true.mp hascii c hc)
    have hword := hpart c hc
    simp only [isWordPart, Bool.or_eq_true, Bool.and_eq_true, decide_eq_true_eq, beq_iff_eq] at hword
    apply isBlank_of_isIdentifierPart
    rw [isIdentifierPart_ascii hsmall]
    omega
  · split at h
    · split at h
      · rename_i d ds _ hparts
        rw [Bool.and_eq_true, List.all_eq_true] at hparts
        exact isBlank_of_isIdentifierPart (IsIdentifier.part ⟨d, ds, rfl, hparts⟩ c hc)
      · cases h
    · cases h

/-- A lexeme other than a string has no blank. -/
theorem Piece.visible {piece rest : Text} (h : Piece piece rest (some kind))
    (hquote : ∀ c ∈ piece, isQuote c = false) : ∀ c ∈ piece, isBlank c = false := by
  cases h with
  | word start part stop is_kind => exact isBlank_of_wordKind? part is_kind
  | string quoted =>
    obtain ⟨q, hq, hquoted⟩ := quoted
    rw [hquote q hq] at hquoted
    contradiction
  | number start visible => exact visible
  | op visible => exact visible

/-- Blanks hold no lexeme. -/
theorem Reads.of_blank {t : Text} (h : Reads t kinds) (ht : ∀ c ∈ t, isBlank c = true) :
    kinds = [] := by
  induction h with
  | nil => rfl
  | @cons piece rest kind? kinds ne_nil head tail ih =>
    rw [ih fun c hc => ht c (List.mem_append_right _ hc), List.append_nil]
    cases kind? with
    | none => rfl
    | some kind =>
      obtain ⟨c, cs, rfl⟩ := List.exists_cons_of_ne_nil ne_nil
      have hpiece : ∀ d ∈ c :: cs, isBlank d = true :=
        fun d hd => ht d (List.mem_append_left _ hd)
      have hvisible := head.visible fun d hd => isQuote_of_isBlank (hpiece d hd)
      have hblank := hpiece c (by simp)
      rw [hvisible c (by simp)] at hblank
      contradiction

/-- Something visible at the start of a word and blanks leaves a part of the word over. -/
theorem exists_rest_of_visible {piece rest : Text} (h : w ++ b = piece ++ rest)
    (hvisible : ∀ c ∈ piece, isBlank c = false) (hb : ∀ c ∈ b, isBlank c = true) :
    ∃ w', w = piece ++ w' ∧ rest = w' ++ b := by
  rcases List.append_eq_append_iff.mp h with ⟨extra, rfl, rfl⟩ | ⟨w', rfl, rfl⟩
  · cases extra with
    | nil => exact ⟨[], by simp, rfl⟩
    | cons c cs =>
      have hblank := hb c (by simp)
      rw [hvisible c (by simp)] at hblank
      contradiction
  · exact ⟨w', rfl, rfl⟩

theorem isQuote_of_isWord {c : Char} (h : isWord c = true) : isQuote c = false := by
  by_contra hquote
  simp only [isQuote, Bool.not_eq_false, Bool.or_eq_true, beq_iff_eq] at hquote
  rcases hquote with rfl | rfl <;> revert h <;> decide

theorem isDigit_of_mayFollowNumber {c : Char} {cs : Text} (h : mayFollowNumber (c :: cs) = true)
    (hpart : isWordPart c = true) : isDigit c = false := by
  have hletters : ["and", "else", "for", "or"].all
      (·.toList.head?.any (!isDigit ·)) = true := by decide
  simp only [mayFollowNumber, hpart, Bool.not_true, Bool.false_or, Bool.or_eq_true,
    List.any_eq_true, Bool.and_eq_true, beq_iff_eq] at h
  rcases h with ⟨word, hword, hwhole⟩ | ⟨rfl, -⟩
  · have hhead := List.all_eq_true.mp hletters word hword
    obtain ⟨tail, htail⟩ := List.isPrefixOf_iff_prefix.mp (Bool.and_eq_true_iff.mp hwhole).1
    cases hchars : word.toList with
    | nil => simp [hchars] at hhead
    | cons d ds =>
      rw [hchars, List.cons_append] at htail
      obtain rfl : d = c := (List.cons.inj htail).1
      simpa [hchars] using hhead
  · decide

/-- A run of word characters with blanks after it is one word, or starts with a number. -/
theorem Reads.word_cases (h : Reads (w ++ b) kinds) (hne : w ≠ []) (hw : ∀ c ∈ w, isWord c = true)
    (hb : ∀ c ∈ b, isBlank c = true) :
    (∃ kind, wordKind? w = some kind ∧ IsIdentifier w ∧ kinds = [kind]) ∨
      ∃ u w' value kinds', w = u ++ w' ∧ (∃ c ∈ u.head?, isDigit c = true) ∧
        mayFollowNumber (w' ++ b ++ ['\n']) = true ∧ Reads (w' ++ b) kinds' ∧
        kinds = .number value :: kinds' := by
  obtain ⟨c, cs, rfl⟩ := List.exists_cons_of_ne_nil hne
  have hc : isWord c = true := hw c (by simp)
  generalize hline : c :: cs ++ b = line at h
  cases h with
  | nil => contradiction
  | @cons piece rest kind? kinds ne_nil head tail =>
    obtain ⟨d, ds, rfl⟩ := List.exists_cons_of_ne_nil ne_nil
    obtain rfl : c = d := (List.cons.inj hline).1
    have hquote : ∀ d ∈ c :: ds, isQuote d = false := by
      intro d hd
      have hmem : d ∈ c :: cs ++ b := by
        rw [hline]
        exact List.mem_append_left _ hd
      rcases List.mem_append.mp hmem with hd | hd
      · exact isQuote_of_isWord (hw d hd)
      · exact isQuote_of_isBlank (hb d hd)
    cases head with
    | blank inner =>
      rw [isWord_eq_false_of_isBlank (isBlank_of_isInnerBlank inner)] at hc
      contradiction
    | comment => exact absurd hc (by decide)
    | word start part stop is_kind =>
      obtain ⟨w', hw', rfl⟩ := exists_rest_of_visible hline (isBlank_of_wordKind? part is_kind) hb
      cases w' with
      | nil =>
        rw [List.append_nil] at hw'
        rw [tail.of_blank hb, hw']
        exact Or.inl ⟨_, is_kind, isIdentifier_of_wordKind? part start is_kind, rfl⟩
      | cons d ds =>
        have hd := isWordPart_of_isWord (hw d (by rw [hw']; simp))
        rw [List.cons_append, List.head?_cons, Option.any_some, hd] at stop
        contradiction
    | string quoted =>
      obtain ⟨q, hq, hquoted⟩ := quoted
      rw [hquote q hq] at hquoted
      contradiction
    | number start visible follow is_value =>
      obtain ⟨w', hw', rfl⟩ := exists_rest_of_visible hline visible hb
      have hdigit : isDigit c = true := by
        obtain ⟨d, hd, hstart⟩ := start
        obtain rfl : c = d := Option.some.inj hd
        apply hstart.resolve_right
        rintro rfl
        revert hc
        decide
      exact Or.inr ⟨_, w', _, _, hw', ⟨c, rfl, hdigit⟩, follow, tail, rfl⟩
    | op visible start =>
      rw [List.head?_cons, Option.any_some, isWordPart_of_isWord hc] at start
      contradiction

/-- A run of word characters with blanks after it is one word, one number, or a number with a word
right behind it. -/
theorem Reads.words_cases (h : Reads (w ++ b) kinds) (hne : w ≠ [])
    (hw : ∀ c ∈ w, isWord c = true) (hb : ∀ c ∈ b, isBlank c = true) :
    (∃ kind, wordKind? w = some kind ∧ IsIdentifier w ∧ kinds = [kind]) ∨
      ((∃ c ∈ w.head?, isDigit c = true) ∧ ∃ value, kinds = [.number value]) ∨
      ∃ value w' kind, wordKind? w' = some kind ∧ kinds = [.number value, kind] := by
  rcases h.word_cases hne hw hb with hword | ⟨u, w', value, kinds', rfl, hdigits, hfollow, hrest, rfl⟩
  · exact Or.inl hword
  · refine Or.inr ?_
    cases w' with
    | nil =>
      left
      rw [List.nil_append] at hrest
      rw [hrest.of_blank hb, List.append_nil]
      exact ⟨hdigits, value, rfl⟩
    | cons d ds =>
      right
      have hw' : ∀ c ∈ d :: ds, isWord c = true := fun c hc => hw c (List.mem_append_right u hc)
      have hdigit : isDigit d = false :=
        isDigit_of_mayFollowNumber hfollow (isWordPart_of_isWord (hw' d (by simp)))
      rcases hrest.word_cases (by simp) hw' hb with ⟨kind, hkind, -, rfl⟩ |
        ⟨u', w'', _, _, heq, hstart, -⟩
      · exact ⟨value, d :: ds, kind, hkind, rfl⟩
      · -- What follows a number directly is no number.
        obtain ⟨c, hc, hdigit'⟩ := hstart
        obtain ⟨cs, rfl⟩ := List.head?_eq_some_iff.mp hc
        obtain rfl : d = c := (List.cons.inj heq).1
        rw [hdigit] at hdigit'
        contradiction

end Words

end Pruner.Syntax
