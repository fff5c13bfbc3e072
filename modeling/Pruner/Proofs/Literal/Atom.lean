import Pruner.Literal
import Pruner.Proofs.Text.Pieces

/-!
Literals that are one number or one string: how they are written, and that reading them gives the
value they stand for.

A text of one lexeme goes through every level of the grammar unchanged, since nothing follows it
that one of the levels could take.
-/
namespace Pruner.Syntax

open Pruner.Text Pruner.Token LexemeParser Nested

section Parsing

/-- The lexemes after the only one of a text. -/
def lineEnd : List Lexeme := [⟨.newline, 1⟩, ⟨.finish, 2⟩]

theorem many_of_none {α : Type} {p : LexemeParser α} {lexemes : List Lexeme}
    (h : p lexemes = none) : many p lexemes = some ([], lexemes) := by
  cases lexemes with
  | nil => rfl
  | cons l rest =>
    show many.go p (l :: rest) [] (l :: rest) = _
    rw [many.go, h]
    rfl

section

variable {item : LexemeParser Expr} {lexemes : List Lexeme} {e : Expr}

/-- An operand with no operator after it is an expression of its level. -/
theorem leftAssociative_single (ops : List String) (h : item lexemes = some (e, lineEnd)) :
    leftAssociative ops item lexemes = some (e, lineEnd) := by
  change Option.bind (item lexemes) _ = _
  rw [h]
  rfl

theorem booleanChain_single (word : String) (h : item lexemes = some (e, lineEnd)) :
    booleanChain word item lexemes = some (e, lineEnd) := by
  change Option.bind (item lexemes) _ = _
  rw [h]
  rfl

end

/-- Numbers and strings. -/
def isAtomKind : LexemeKind → Bool
  | .number _ => true
  | .string _ _ => true
  | _ => false

variable {primary : LexemeParser Expr} {l : Lexeme} {e : Expr}

theorem bitwiseOr_single (hl : isAtomKind l.kind = true)
    (h : primary (l :: lineEnd) = some (e, lineEnd)) :
    bitwiseOr primary (l :: lineEnd) = some (e, lineEnd) := by
  rw [bitwiseOr]
  -- Each level looks for one of its operators and finds the end of the line.
  repeat apply leftAssociative_single
  obtain ⟨kind, line⟩ := l
  cases kind with
  | number value =>
    change Option.bind (primary (⟨.number value, line⟩ :: lineEnd)) _ = _
    rw [h]
    rfl
  | string mark body =>
    change Option.bind (primary (⟨.string mark body, line⟩ :: lineEnd)) _ = _
    rw [h]
    rfl
  | _ => simp [isAtomKind] at hl

theorem keyword_atom (hl : isAtomKind l.kind = true) (word : String) :
    keyword word (l :: lineEnd) = none := by
  obtain ⟨kind, line⟩ := l
  cases kind with
  | number value => rfl
  | string mark body => rfl
  | _ => simp [isAtomKind] at hl

theorem inversion_single {comparison : LexemeParser Expr} (hl : isAtomKind l.kind = true)
    (h : comparison (l :: lineEnd) = some (e, lineEnd)) :
    inversion comparison (l :: lineEnd) = some (e, lineEnd) := by
  change Option.bind (many (keyword "not") (l :: lineEnd)) _ = _
  rw [many_of_none (keyword_atom hl "not")]
  change Option.bind (comparison (l :: lineEnd)) _ = _
  rw [h]
  rfl

theorem disjunction_single (hl : isAtomKind l.kind = true)
    (h : primary (l :: lineEnd) = some (e, lineEnd)) :
    disjunction primary (l :: lineEnd) = some (e, lineEnd) := by
  rw [disjunction]
  apply booleanChain_single
  apply booleanChain_single
  apply inversion_single hl
  change Option.bind (bitwiseOr primary (l :: lineEnd)) _ = _
  rw [bitwiseOr_single hl h]
  rfl

theorem expressionNext_single {g : Nested} (hl : isAtomKind l.kind = true)
    (h : atom g (l :: lineEnd) = some (e, lineEnd)) :
    expressionNext g (l :: lineEnd) = some (e, lineEnd) := by
  have hprimary : primaryNext g (l :: lineEnd) = some (e, lineEnd) := by
    change Option.bind (atom g (l :: lineEnd)) _ = _
    rw [h]
    rfl
  have hbody := disjunction_single hl hprimary
  obtain ⟨kind, line⟩ := l
  cases kind with
  | number value =>
    change Option.bind (disjunction (primaryNext g) (⟨.number value, line⟩ :: lineEnd)) _ = _
    rw [hbody]
    rfl
  | string mark body =>
    change Option.bind (disjunction (primaryNext g) (⟨.string mark body, line⟩ :: lineEnd)) _ = _
    rw [hbody]
    rfl
  | _ => simp [isAtomKind] at hl

theorem atom_number (g : Nested) (value : Constant) (line : Nat) :
    atom g (⟨.number value, line⟩ :: lineEnd) = some (.constant line value, lineEnd) := rfl

theorem atom_string (g : Nested) {mark : StringMark} {body : Text} {points : List Nat} (line : Nat)
    (hmark : mark.bytes = false ∧ mark.format = false)
    (h : bodyPoints? mark body = some points) :
    atom g (⟨.string mark body, line⟩ :: lineEnd) =
      some (.constant line (.str points), lineEnd) := by
  obtain ⟨raw, bytes, format⟩ := mark
  obtain ⟨rfl, rfl⟩ := hmark
  change strings g (⟨.string ⟨raw, false, false⟩ body, line⟩ :: lineEnd) = _
  have hpieces : piecesOf? g line ⟨raw, false, false⟩ body = some [.literal points] := by
    simp [piecesOf?, h]
  have hmap : [(line, (⟨raw, false, false⟩ : StringMark), body)].mapM
      (fun part => piecesOf? g part.1 part.2.1 part.2.2) = some [[.literal points]] := by
    simp [hpieces]
  change Option.bind (Option.bind ([(line, (⟨raw, false, false⟩ : StringMark), body)].mapM
      (fun part => piecesOf? g part.1 part.2.1 part.2.2)) _) _ = _
  rw [hmap]
  change some (Expr.constant line (.str (points ++ [])), lineEnd) = _
  rw [List.append_nil]

/-- A text of one number or string is an expression. -/
theorem parseExpression?_atom {source : Text} {value : Constant}
    (hl : isAtomKind l.kind = true) (hlex : lex? 1 source = some (l :: lineEnd))
    (h : ∀ g, atom g (l :: lineEnd) = some (.constant l.line value, lineEnd)) :
    parseExpression? source = some (.constant l.line value) := by
  have hexpression : expression ((normalizeLineEnds source).length + 1) (l :: lineEnd) =
      some (.constant l.line value, lineEnd) := by
    rw [expression]
    exact expressionNext_single hl (h _)
  rw [parseExpression?, hlex]
  change Option.map _ (Option.bind
    (Option.bind (expression ((normalizeLineEnds source).length + 1) (l :: lineEnd)) _) _) = _
  rw [hexpression]
  rfl

end Parsing

section Reading

theorem foldl_lineEnds {t : Text} (h : '\r' ∉ t) (held : Text) :
    t.foldl (fun (acc : Text × Bool) c =>
      if c == '\r' then ('\n' :: acc.1, true)
      else if c == '\n' && acc.2 then (acc.1, false)
      else (c :: acc.1, false)) (held, false) = (t.reverse ++ held, false) := by
  induction t generalizing held with
  | nil => rfl
  | cons c cs ih =>
    rw [List.mem_cons, not_or] at h
    have hc : (c == '\r') = false := by simpa using Ne.symm h.1
    rw [List.foldl_cons, hc, Bool.and_false, if_neg Bool.false_ne_true,
      if_neg Bool.false_ne_true, ih h.2]
    simp

/-- Without carriage returns the line ends are normal already. -/
theorem normalizeLineEnds_go {t : Text} (h : '\r' ∉ t) : normalizeLineEnds.go t = t := by
  rw [normalizeLineEnds.go, foldl_lineEnds h]
  simp

theorem run?_append (r : Reader) (s t : Text) :
    Reader.run? s.length r (s ++ t) = Reader.run? 0 r t := by
  induction s with
  | nil => rfl
  | cons c s ih => exact ih

/-- The reader on the first line, after its margin. -/
def afterMargin : Reader := { atStart := false }

/-- A line that starts with something visible has no margin. -/
theorem next?_margin {c : Char} (hc : c ∉ [' ', '\t', '\x0c', '\\', '#', '\n']) (cs : Text) :
    Reader.next? {} (c :: cs) = some (afterMargin, 0) := by
  simp only [List.mem_cons, List.not_mem_nil, or_false, not_or] at hc
  have hmargin : Margin.measure? {} (c :: cs) = some {} := by
    rw [Margin.measure?.eq_def]
    split
    · rfl
    · rename_i heq
      exact absurd (List.cons.inj heq).1 hc.2.2.2.1
    · rename_i d ds heq
      obtain ⟨rfl, -⟩ := List.cons.inj heq
      simp [hc]
  simp [Reader.next?, hmargin, hc, Reader.enter?, afterMargin]

/-- A text of one lexeme: it starts in the first column, has no line end, and the reader takes all of
it at once. -/
structure IsAtom (text : Text) (kind : LexemeKind) : Prop where
  kind_atom : isAtomKind kind = true
  start : ∃ c ∈ text.head?, c ∉ [' ', '\t', '\x0c', '\\', '#']
  line_ends : '\r' ∉ text ∧ '\n' ∉ text ∧ '\x00' ∉ text
  next : afterMargin.next? (text ++ ['\n']) = some (afterMargin.add kind, text.length)

theorem IsAtom.lex {text : Text} {kind : LexemeKind} (h : IsAtom text kind) :
    lex? 1 text = some (⟨kind, 1⟩ :: lineEnd) := by
  obtain ⟨c, hc, hstart⟩ := h.start
  obtain ⟨cs, rfl⟩ := List.head?_eq_some_iff.mp hc
  obtain ⟨hreturn, hfeed, hzero⟩ := h.line_ends
  simp only [List.mem_cons, List.not_mem_nil, or_false, not_or] at hstart
  have hnormal : normalizeLineEnds (c :: cs) = c :: (cs ++ ['\n']) := by
    have hlast : ((c :: cs).getLast? == some '\n') = false := by
      rw [beq_eq_false_iff_ne]
      exact fun hlast => hfeed (List.mem_of_getLast? hlast)
    rw [normalizeLineEnds, normalizeLineEnds_go hreturn, hlast]
    rfl
  -- The margin is empty, the lexeme comes next, and then the line ends.
  have henter : Reader.next? {} (c :: (cs ++ ['\n'])) = some (afterMargin, 0) := by
    apply next?_margin
    rw [List.mem_cons, not_or] at hfeed
    simp [hstart, Ne.symm hfeed.1]
  have hrun : Reader.run? 0 {} (c :: (cs ++ ['\n'])) =
      Reader.run? 0 (afterMargin.add kind) ['\n'] := by
    have hnext := h.next
    rw [List.cons_append, List.length_cons] at hnext
    rw [Reader.run?, henter]
    dsimp only
    rw [hnext]
    exact run?_append _ cs ['\n']
  have hnul : (c :: cs).contains '\x00' = false := by
    simpa using hzero
  rw [lex?, hnormal, hrun, hnul]
  rfl

/-- A text of one lexeme that stands for a constant is a literal with that value. -/
theorem IsAtom.ofText {text : Text} {kind : LexemeKind} {value : Constant} (h : IsAtom text kind)
    (hatom : ∀ g, atom g (⟨kind, 1⟩ :: lineEnd) = some (.constant 1 value, lineEnd)) :
    Literal.ofText text = .ok (.constant value) := by
  have hblanks : text.dropWhile (fun c => c == ' ' || c == '\t') = text := by
    obtain ⟨c, hc, hstart⟩ := h.start
    obtain ⟨cs, rfl⟩ := List.head?_eq_some_iff.mp hc
    simp only [List.mem_cons, List.not_mem_nil, or_false, not_or] at hstart
    simp [hstart]
  rw [Literal.ofText, hblanks, parseExpression?_atom h.kind_atom h.lex hatom]
  rfl

end Reading

end Pruner.Syntax
