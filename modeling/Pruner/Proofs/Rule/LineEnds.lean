import Pruner.Proofs.Literal.Atom
import Pruner.Proofs.Rule.DuplicateKey
import Pruner.Proofs.Rule.ImportPieces
import Pruner.Proofs.Rule.StarImport
import Pruner.Proofs.Rule.Variable
import Pruner.Proofs.Text.LineEnds
import Pruner.Proofs.Token.Tail

/-!
What the rules do to a line that ends in a carriage return and a line feed.

A rule mirrors a line if it fails on both spellings of the line for the same reason, or gives two
spellings of one text. Three kinds of lines are not mirrored. The name of an `except` clause is found
only in front of a bare line feed. The modules of an import are sorted with the line end still on the
last of them, so one that goes on after a vertical tab or a form feed changes places with it. And a
line feed among the names for a star gets no carriage return.
-/
namespace Pruner

open Pruner.Text Pruner.Line

/-- Two edits that fail alike or both succeed; the second then gives the text of the first, with
carriage returns, exactly if `same` holds. -/
def Mirrors (same : Prop) : Edit Text → Edit Text → Prop
  | .ok piece, .ok piece' => piece' = crlf piece ↔ same
  | .error fault, .error fault' => fault = fault'
  | _, _ => False

theorem mirrors_ok {same : Prop} (h : same) (piece : Text) :
    Mirrors same (.ok piece) (.ok (crlf piece)) :=
  iff_of_true rfl h

theorem mirrors_error (same : Prop) (fault : Fault) : Mirrors same (.error fault) (.error fault) :=
  rfl

/-- A text without a line feed has one spelling only. -/
theorem mirrors_self {same : Prop} (h : same) {edit : Edit Text}
    (hedit : ∀ piece, edit = .ok piece → '\n' ∉ piece) : Mirrors same edit edit := by
  cases edit with
  | error fault => exact mirrors_error same fault
  | ok piece => exact iff_of_true (crlf_of_not_mem (hedit piece rfl)).symm h

namespace Syntax

variable {t : Text}

theorem normalizeLineEnds_crlf (h : '\r' ∉ t) : normalizeLineEnds (crlf t) = normalizeLineEnds t := by
  have hfold (held : Text) : (crlf t).foldl (fun (acc : Text × Bool) c =>
      if c == '\r' then ('\n' :: acc.1, true)
      else if c == '\n' && acc.2 then (acc.1, false)
      else (c :: acc.1, false)) (held, false) = (t.reverse ++ held, false) := by
    induction t generalizing held with
    | nil => rfl
    | cons c cs ih =>
      rw [List.mem_cons, not_or] at h
      by_cases hc : c = '\n'
      · subst hc
        rw [crlf_newline, List.foldl_cons, List.foldl_cons]
        simpa using ih h.2 ('\n' :: held)
      · have hreturn : (c == '\r') = false := by simpa using Ne.symm h.1
        rw [crlf_cons hc, List.foldl_cons, hreturn]
        simpa [hc] using ih h.2 (c :: held)
  have hgo : normalizeLineEnds.go (crlf t) = normalizeLineEnds.go t := by
    rw [normalizeLineEnds_go h, normalizeLineEnds.go, hfold, List.append_nil, List.reverse_reverse]
  rw [normalizeLineEnds, normalizeLineEnds, hgo]

theorem lex?_crlf (h : '\r' ∉ t) (firstLine : Nat) : lex? firstLine (crlf t) = lex? firstLine t := by
  rw [lex?, lex?, contains_crlf (by decide), normalizeLineEnds_crlf h]

theorem parseExpression?_crlf (h : '\r' ∉ t) : parseExpression? (crlf t) = parseExpression? t := by
  rw [parseExpression?, parseExpression?, lex?_crlf h, normalizeLineEnds_crlf h]

theorem ofText_crlf (h : '\r' ∉ t) : Literal.ofText (crlf t) = Literal.ofText t := by
  have hdrop : '\r' ∉ t.dropWhile fun c => c == ' ' || c == '\t' :=
    fun hmem => h ((List.dropWhile_suffix _).subset hmem)
  rw [Literal.ofText, Literal.ofText, dropWhile_crlf rfl, parseExpression?_crlf hdrop]

end Syntax

section Partial

variable {line : Text}

theorem isPartial_crlf (hline : IsLine line) (hreturn : '\r' ∉ line) (hhash : '#' ∉ line)
    (previous : Text) : isPartial (crlf line) (crlf previous) = isPartial line previous := by
  rw [isPartial, isPartial, isJoined_crlf, contains_crlf (by decide), contains_crlf (by decide),
    contains_crlf (by decide)]
  by_cases hslash : line.contains '\\' = true
  · rw [hslash]
    rfl
  · have hscan : (Token.scan (crlf line)).error.isSome = (Token.scan line).error.isSome := by
      rcases hline.cases with ⟨s, hs, rfl⟩ | hbare
      · -- Neither ending matters for what is open at the end of the line.
        have hinline : Token.Inline s := by
          intro c hc hmem
          simp only [List.contains_iff_mem, List.mem_append, not_or] at hslash hreturn hhash
          simp only [List.mem_cons, List.not_mem_nil, or_false] at hmem
          rcases hmem with rfl | rfl | rfl | rfl
          exacts [hslash.1 hc, hhash.1 hc, hreturn.1 hc, hs hc]
        rw [Bool.eq_iff_iff, crlf_line hs, crlf_nil,
          Token.error_append_lineEnd hinline (Or.inr rfl),
          Token.error_append_lineEnd hinline (Or.inl rfl)]
      · rw [crlf_of_not_mem hbare]
    rw [hscan]

theorem isPartialImport_crlf (hline : IsLine line) (hreturn : '\r' ∉ line) (hhash : '#' ∉ line)
    (previous : Text) :
    isPartialImport (crlf line) (crlf previous) = isPartialImport line previous := by
  rw [isPartialImport, isPartialImport, isPartial_crlf hline hreturn hhash, trimLeft_crlf,
    startsWith_crlf (by decide) (by decide), contains_crlf (by decide), contains_crlf (by decide)]

end Partial

namespace Variable

variable {line value : Text}

theorem isName_crlf (value : Text) : isName (crlf value) = isName value := by
  have hlonger (t : Text) : (t.dropWhile isWord).length < t.length ↔ t.takeWhile isWord ≠ [] := by
    have hsplit := congrArg List.length (List.takeWhile_append_dropWhile (p := isWord) (l := t))
    rw [List.length_append] at hsplit
    rw [← List.length_pos_iff]
    omega
  have hlength : (crlf (value.dropWhile isWord)).length < (crlf value).length ↔
      (value.dropWhile isWord).length < value.length := by
    rw [← dropWhile_crlf rfl, hlonger, hlonger, takeWhile_crlf rfl, ne_eq, ne_eq, crlf_eq_nil_iff]
  rw [isName, isName, dropWhile_crlf rfl, Bool.eq_iff_iff]
  simp only [Bool.and_eq_true, decide_eq_true_eq, List.all_eq_true, hlength,
    forall_mem_crlf (p := isBlank) rfl]

theorem isLiteralOrName_crlf (h : '\r' ∉ value) :
    isLiteralOrName (crlf value) = isLiteralOrName value := by
  have hcall : (["dict()", "list()", "set()"].any fun s => s.toList == trim (crlf value)) =
      ["dict()", "list()", "set()"].any fun s => s.toList == trim value := by
    have hword (w : Text) (hreturn : '\r' ∉ w) (hline : '\n' ∉ w) :
        (w == trim (crlf value)) = (w == trim value) := by
      rw [Bool.eq_iff_iff, beq_iff_eq, beq_iff_eq, trim_crlf, eq_comm, crlf_eq_iff hreturn hline,
        eq_comm]
    simp only [List.any_cons, List.any_nil]
    rw [hword _ (by decide) (by decide), hword _ (by decide) (by decide),
      hword _ (by decide) (by decide)]
  rw [isLiteralOrName, isLiteralOrName, Syntax.ofText_crlf h, hcall, isName_crlf]

/-- In front of a carriage return no name of an `except` clause is found. -/
theorem dropExceptName?_crlf_of_ends (he : EndsLine line) : dropExceptName? (crlf line) = none := by
  obtain ⟨s, rfl⟩ := List.getLast?_eq_some_iff.mp he
  have hsplit : splitNewline (crlf (s ++ ['\n'])) = (crlf s ++ ['\r'], ['\n']) := by
    have hends : endsWith ['\n'] (crlf s ++ ['\r', '\n']) = true := by
      rw [endsWith, List.isSuffixOf_iff_suffix]
      exact ⟨crlf s ++ ['\r'], by simp⟩
    rw [crlf_append, crlf_newline, crlf_nil, splitNewline, if_pos hends]
    simp
  rw [dropExceptName?, hsplit]
  simp [beforeAsName?]

/-- A line that is no `except` clause is mirrored. -/
theorem filterUnused_crlf_of_none (hline : IsLine line) (hreturn : '\r' ∉ line) (hhash : '#' ∉ line)
    (hnone : dropExceptName? line = none) (hnone' : dropExceptName? (crlf line) = none) :
    Mirrors True (filterUnused line []) (filterUnused (crlf line) []) := by
  have hpartial : isPartial (crlf line) [] = isPartial line [] :=
    isPartial_crlf hline hreturn hhash []
  rw [filterUnused, filterUnused, hnone, hnone', hpartial, pieces_crlf (by decide) (by decide)]
  dsimp only
  split
  · exact mirrors_ok trivial line
  · rcases hpieces : pieces (· == '=') line with _ | ⟨target, _ | ⟨rest, _ | ⟨third, more⟩⟩⟩
    · exact mirrors_ok trivial line
    · exact mirrors_ok trivial line
    · have hvalue : '\r' ∉ trimLeft rest := fun hmem =>
        hreturn ((piece_sublist (p := (· == '=')) (by rw [hpieces]; simp)).subset
          ((List.dropWhile_suffix _).subset hmem))
      simp only [List.map_cons, List.map_nil, contains_crlf (c := ',') (by decide), trimLeft_crlf,
        isLiteralOrName_crlf hvalue]
      split
      · exact mirrors_ok trivial line
      · cases isLiteralOrName (trimLeft rest) with
        | error fault => exact mirrors_error True fault
        | ok literal =>
          cases literal with
          | false =>
            change Mirrors True (.ok (indentation line ++ trimLeft rest))
              (.ok (indentation (crlf line) ++ crlf (trimLeft rest)))
            rw [indentation_crlf, ← crlf_append]
            exact mirrors_ok trivial _
          | true =>
            change Mirrors True (.ok (passFor line)) (.ok (passFor (crlf line)))
            rw [passFor_crlf]
            exact mirrors_ok trivial _
    · exact mirrors_ok trivial line

/-- A line is mirrored unless it is an `except` clause with a name and a line end. -/
theorem filterUnused_crlf (hline : IsLine line) (hreturn : '\r' ∉ line) (hhash : '#' ∉ line) :
    Mirrors (¬((dropExceptName? line).isSome = true ∧ EndsLine line))
      (filterUnused line []) (filterUnused (crlf line) []) := by
  cases hclause : dropExceptName? line with
  | none =>
    have hnone' : dropExceptName? (crlf line) = none := by
      rcases hline.cases with ⟨s, -, rfl⟩ | hbare
      · exact dropExceptName?_crlf_of_ends (endsLine_append s)
      · rw [crlf_of_not_mem hbare, hclause]
    simpa using filterUnused_crlf_of_none hline hreturn hhash hclause hnone'
  | some clause =>
    obtain ⟨front, name, newline, hsplit, rfl⟩ := dropExceptName?_eq_some hclause
    have hfilter : filterUnused line [] = .ok (front ++ [':'] ++ newline) := by
      rw [filterUnused, hclause]
    rw [hfilter]
    by_cases he : EndsLine line
    · -- The clause keeps its name: after the search for it fails, the colon makes it partial.
      have hcolon : isPartial (crlf line) [] = true := by
        have hmem : ':' ∈ crlf line := (mem_crlf (by decide)).mpr (by rw [hsplit]; simp)
        simp [isPartial, hmem]
      rw [filterUnused, dropExceptName?_crlf_of_ends he]
      dsimp only
      rw [if_pos hcolon]
      refine iff_of_false (fun hsame => ?_) (by simp [he])
      have hlength := congrArg List.length hsame
      rw [length_crlf, length_crlf, hsplit] at hlength
      simp only [List.length_append, List.count_append] at hlength
      have has : " as ".toList.length = 4 := rfl
      omega
    · have hbare := hline.bare he
      have hpiece : '\n' ∉ front ++ [':'] ++ newline := by
        rw [hsplit] at hbare
        simp only [List.mem_append, not_or] at hbare ⊢
        exact ⟨⟨hbare.1.1.1.1, hbare.1.2⟩, hbare.2⟩
      rw [crlf_of_not_mem hbare, hfilter]
      exact mirrors_self (by simp [he]) fun piece heq => Except.ok.inj heq ▸ hpiece

end Variable

namespace StarImport

theorem crlf_replaceStars (names line : Text) :
    crlf (replaceStars names line) = replaceStars (crlf names) (crlf line) := by
  induction line with
  | nil => rfl
  | cons c cs ih =>
    rw [replaceStars] at ih ⊢
    rw [List.flatMap_cons, crlf_append, ih]
    by_cases hc : c = '\n'
    · subst hc
      rfl
    · rw [crlf_cons hc, replaceStars, replaceStars, List.flatMap_cons]
      split
      · rfl
      · rw [crlf_cons hc, crlf_nil]

theorem replaceStars_crlf_iff {names line : Text} :
    replaceStars names (crlf line) = crlf (replaceStars names line) ↔
      ¬('*' ∈ line ∧ '\n' ∈ names) := by
  rw [crlf_replaceStars]
  constructor
  · rintro hsame ⟨hstar, hnewline⟩
    have hpos : 0 < (crlf line).count '*' := List.count_pos_iff.mpr ((mem_crlf (by decide)).mpr hstar)
    have hlength := length_replaceStars names (crlf line)
    have hlength' := length_replaceStars (crlf names) (crlf line)
    rw [hsame] at hlength
    have hnames : names.length = (crlf names).length :=
      Nat.eq_of_mul_eq_mul_left hpos (by omega)
    rw [length_crlf] at hnames
    have hcount := List.count_pos_iff.mpr hnewline
    omega
  · intro hnot
    by_cases hstar : '*' ∈ line
    · rw [crlf_of_not_mem fun hnewline => hnot ⟨hstar, hnewline⟩]
    · have hstar' := (mem_crlf (c := '*') (by decide)).not.mpr hstar
      rw [replaceStars_eq_self (Or.inl hstar'), replaceStars_eq_self (Or.inl hstar')]

/-- A line is mirrored unless it has a star and the names for it a line feed. -/
theorem expand_crlf (line : Text) (names : List Text) :
    Mirrors (¬('*' ∈ line ∧ ∃ filled, expand ['*'] names = .ok filled ∧ '\n' ∈ filled))
      (expand line names) (expand (crlf line) names) := by
  rw [expand, expand, expand]
  cases parse (join ", ".toList (sortDistinct names)) with
  | error fault => exact mirrors_error _ fault
  | ok parts =>
    have hlone : (∃ filled, (.ok (replaceStars (fill parts) ['*']) : Edit Text) = .ok filled ∧
        '\n' ∈ filled) ↔ '\n' ∈ fill parts := by
      simp [replaceStars]
    change (replaceStars (fill parts) (crlf line) = crlf (replaceStars (fill parts) line) ↔
      ¬('*' ∈ line ∧ ∃ filled, (.ok (replaceStars (fill parts) ['*']) : Edit Text) = .ok filled ∧
        '\n' ∈ filled))
    rw [hlone, replaceStars_crlf_iff]

end StarImport

namespace DuplicateKey

theorem beforeLastComma?_return (t : Text) : beforeLastComma? (t ++ ['\r']) = beforeLastComma? t := by
  have hdrop : (t ++ ['\r']).reverse.dropWhile isBlank = t.reverse.dropWhile isBlank := by
    rw [List.reverse_append, List.reverse_singleton, List.singleton_append]
    exact List.dropWhile_cons_of_pos rfl
  rw [beforeLastComma?, beforeLastComma?, hdrop]

theorem trimLeft_return (t : Text) :
    trimLeft (t ++ ['\r']) = if trimLeft t = [] then [] else trimLeft t ++ ['\r'] := by
  rw [trimLeft, trimLeft, List.dropWhile_append]
  simp only [List.isEmpty_iff]
  rfl

theorem valueAfter?_return (t : Text) : valueAfter? (t ++ ['\r']) = valueAfter? t := by
  rw [valueAfter?, valueAfter?, trimLeft_return]
  match trimLeft t with
  | [] => rfl
  | c :: rest =>
    by_cases hc : c = ':'
    · subst hc
      have hvalue : beforeLastComma? (trimLeft (rest ++ ['\r'])) =
          beforeLastComma? (trimLeft rest) := by
        rw [trimLeft_return]
        split
        · rename_i hnil
          rw [hnil]
        · exact beforeLastComma?_return _
      exact hvalue
    · simp [hc]

theorem longestKey?_return (t : Text) : longestKey? (t ++ ['\r']) = longestKey? t := by
  induction t with
  | nil => rfl
  | cons c cs ih =>
    rw [List.cons_append, longestKey?, longestKey?, ih, ← List.cons_append, valueAfter?_return]

theorem entryParts?_return (line : Text) : entryParts? (line ++ ['\r']) = entryParts? line := by
  rw [entryParts?, entryParts?, trimLeft_return]
  split
  · rename_i hnil
    rw [hnil]
  · exact longestKey?_return _

/-- A carriage return at its end does not change what entry a line holds. -/
theorem hasKey_return (line : Text) (key : Key) : hasKey (line ++ ['\r']) key = hasKey line key := by
  have hhash : (line ++ ['\r']).contains '#' = line.contains '#' := by simp
  rw [hasKey, hasKey, hhash, entryParts?_return]

end DuplicateKey

end Pruner
