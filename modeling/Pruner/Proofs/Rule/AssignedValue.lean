import Mathlib.Tactic.FinCases
import Pruner.Proofs.Rule.Variable
import Pruner.Proofs.Syntax.OneLine

/-!
What is left of an assignment to an unused variable: its value, or a `pass` if the value cannot have
an effect.

A literal, a call that makes an empty container and a name have none. But a value passes for a name
if it is any single word, and one keyword is a value of its own: a `yield` is dropped, although it
makes its function a generator.
-/
namespace Pruner.Syntax

open LexemeParser Nested

section Grammar

/-- What may stand behind an equals sign, up to the end of the text. -/
def assignedLine (g : Nested) : LexemeParser Expr := do
  let e ← g.yieldOrExpressions
  discard (many (expect .newline))
  expect .finish
  return e

/-- Reads a text that holds what may stand behind an equals sign, and nothing else. -/
def parseAssigned? (source : Text) : Option Expr := do
  let lexemes ← lex? 1 source
  (assignedLine (nested ((normalizeLineEnds source).length + 1)) lexemes).map (·.1)

variable {source : Text} {lexemes : List Lexeme}

theorem exists_lex?_of_assigned (h : (parseAssigned? source).isSome = true) :
    ∃ lexemes depth, lex? 1 source = some lexemes ∧
      (assignedLine (nested (depth + 1)) lexemes).isSome = true := by
  obtain ⟨e, he⟩ := Option.isSome_iff_exists.mp h
  obtain ⟨lexemes, hlex, hline⟩ := Option.bind_eq_some_iff.mp he
  obtain ⟨found, hfound, -⟩ := Option.map_eq_some_iff.mp hline
  exact ⟨lexemes, _, hlex, by rw [hfound]; rfl⟩

/-- The keywords that are constants. -/
def constantKeywords : List String := ["False", "None", "True"]

/-- No other keyword is a value on its own. -/
theorem assignedLine_keyword (depth : Nat) {word : String} (h : word ∈ keywords)
    (hnot : word ∉ constantKeywords) (hyield : word ≠ "yield") :
    assignedLine (nested (depth + 1)) (⟨.keyword word, 1⟩ :: lineEnd) = none := by
  fin_cases h <;> first | rfl | simp [constantKeywords] at hnot hyield

/-- A number with a word behind it is no value. -/
theorem assignedLine_number (depth : Nat) (value : Constant) {text : Text} {kind : LexemeKind}
    (h : wordKind? text = some kind) :
    assignedLine (nested (depth + 1)) (⟨.number value, 1⟩ :: ⟨kind, 1⟩ :: lineEnd) = none := by
  rcases wordKind?_cases h with ⟨rfl, hkeyword⟩ | ⟨⟨id, rfl⟩, -⟩
  · generalize String.ofList text = word at hkeyword
    fin_cases hkeyword <;> rfl
  · rfl

theorem parseExpression?_keyword {word : String} (h : word ∈ constantKeywords)
    (hlex : lex? 1 source = some (⟨.keyword word, 1⟩ :: lineEnd)) :
    ∃ c, parseExpression? source = some (.constant 1 c) := by
  rw [parseExpression?, hlex]
  fin_cases h
  · exact ⟨.bool false, rfl⟩
  · exact ⟨.none, rfl⟩
  · exact ⟨.bool true, rfl⟩

theorem parseExpression?_yield
    (hlex : lex? 1 source = some (⟨.keyword "yield", 1⟩ :: lineEnd)) :
    parseExpression? source = none := by
  rw [parseExpression?, hlex]
  rfl

/-- A text that starts with something visible is read as it stands. -/
theorem ofText_of_head (h : ∀ c ∈ source.head?, Text.isBlank c = false) :
    Literal.ofText source = (parseExpression? source).elim (.error .malformed) Literal.eval := by
  have hdrop : source.dropWhile (fun c => c == ' ' || c == '\t') = source := by
    cases source with
    | nil => rfl
    | cons c cs =>
      have hne {d : Char} (hd : Text.isBlank d = true) : c ≠ d := by
        rintro rfl
        rw [h c rfl] at hd
        contradiction
      have hspace : c ≠ ' ' := hne (by decide)
      have htab : c ≠ '\t' := hne (by decide)
      simp [hspace, htab]
  rw [Literal.ofText, hdrop]
  cases parseExpression? source <;> rfl

end Grammar

end Pruner.Syntax

namespace Pruner.Variable

open Pruner.Text Pruner.Line Pruner.Token Pruner.Syntax

theorem mem_dropWhile_of_false {p : Char → Bool} {t : Text} {c : Char} (hc : p c = false)
    (h : c ∈ t) : c ∈ t.dropWhile p := by
  rw [← List.takeWhile_append_dropWhile (p := p) (l := t), List.mem_append] at h
  apply h.resolve_left
  intro hmem
  rw [List.mem_takeWhile_imp hmem] at hc
  contradiction

theorem equals_mem_of_beforeAsName? {body front : Text} (hbody : '=' ∈ body)
    (h : beforeAsName? body = some front) : '=' ∈ front := by
  rw [beforeAsName?] at h
  split at h
  · rename_i rest hrest
    have hmem : '=' ∈ rest := by
      have hrev := List.mem_reverse.mpr hbody
      rw [hrest, List.mem_cons] at hrev
      exact hrev.resolve_left (by decide)
    dsimp only at h
    rw [drop_length_takeWhile] at h
    split at h
    · contradiction
    · split at h
      · rename_i hstart
        obtain ⟨tail, htail⟩ := List.isPrefixOf_iff_prefix.mp hstart
        have hdrop := mem_dropWhile_of_false (p := isWord) (by decide) hmem
        rw [← htail, List.mem_append] at hdrop
        rw [← htail] at h
        obtain rfl : tail.reverse = front := by simpa using h
        exact List.mem_reverse.mpr (hdrop.resolve_left (by decide))
      · contradiction
  · contradiction

/-- No `except` clause has an equals sign. -/
theorem dropExceptName?_of_equals {line : Text} (h : '=' ∈ line) : dropExceptName? line = none := by
  have hsplit := splitNewline_append line
  have hnewline : '=' ∉ (splitNewline line).2 := by
    rw [splitNewline]
    split <;> simp
  rw [dropExceptName?]
  generalize splitNewline line = parts at hsplit hnewline
  obtain ⟨body, newline⟩ := parts
  dsimp only at hsplit hnewline ⊢
  have hbody : '=' ∈ body := by
    rw [← hsplit, List.mem_append] at h
    exact h.resolve_right hnewline
  split
  · rfl
  · rename_i front hfront
    rw [if_neg]
    intro hclause
    rw [Bool.and_eq_true, Bool.and_eq_true, List.all_eq_true] at hclause
    obtain ⟨⟨hstart, -⟩, hall⟩ := hclause
    obtain ⟨types, htypes⟩ := List.isPrefixOf_iff_prefix.mp hstart
    have hmem : '=' ∈ trimLeft front :=
      mem_dropWhile_of_false (by decide) (equals_mem_of_beforeAsName? hbody hfront)
    rw [← htypes, List.mem_append] at hmem
    have hpart := hall '=' (by
      rw [← htypes]
      exact hmem.resolve_left (by decide))
    revert hpart
    decide

section Values

/-- A value without an effect: a literal, a call that makes an empty container, or a name. -/
inductive IsInert (value : Text) : Prop
  | literal (found : Value) (is_literal : Literal.ofText value = .ok found)
  | container (is_call : trim value ∈ ["dict()", "list()", "set()"].map String.toList)
  | name (is_name : IsIdentifier (trim value)) (free : String.ofList (trim value) ∉ keywords)

/-- An assignment on one line. -/
structure Assignment where
  target : Text
  gap : Text
  body : Text
  ending : Text
  single : '=' ∉ target ∧ '=' ∉ body
  blank : ∀ c ∈ gap, isBlank c = true
  starts : ∃ c ∈ body.head?, isBlank c = false
  one_line : IsOneLine body ending
  is_value : (parseAssigned? (body ++ ending)).isSome = true

namespace Assignment

/-- The value and the end of the line. -/
def value (a : Assignment) : Text :=
  a.body ++ a.ending

def line (a : Assignment) : Text :=
  a.target ++ '=' :: (a.gap ++ a.value)

variable (a : Assignment)

theorem isBlank_ending : ∀ c ∈ a.ending, isBlank c = true := by
  have hends := a.one_line.ends
  simp only [lineEnds, List.mem_cons, List.not_mem_nil, or_false] at hends
  rcases hends with hends | hends | hends | hends <;> rw [hends] <;>
    exact List.all_eq_true.mp (by decide)

theorem trimLeft_gap : trimLeft (a.gap ++ a.value) = a.value := by
  obtain ⟨c, hc, hblank⟩ := a.starts
  obtain ⟨cs, hbody⟩ := List.head?_eq_some_iff.mp hc
  rw [trimLeft_append_of_blank a.blank, value, hbody]
  exact trimLeft_eq_self (by simpa using hblank)

theorem dropExceptName?_line : dropExceptName? a.line = none :=
  dropExceptName?_of_equals (by simp [line])

theorem pieces_line : pieces (· == '=') a.line = [a.target, a.gap ++ a.value] := by
  have hgap : '=' ∉ a.gap := not_mem_of_blank a.blank (by decide)
  have hending : '=' ∉ a.ending := not_mem_of_blank a.isBlank_ending (by decide)
  rw [line, pieces_separator a.single.1, pieces_of_not_mem]
  simp [value, hgap, hending, a.single.2]

/-- A value that is taken for a name is one word with blanks behind it. -/
theorem split_of_isName (h : isName a.value = true) :
    ∃ w b : Text, a.body = w ++ b ∧ w ≠ [] ∧ (∀ c ∈ w, isWord c = true) ∧
      (∀ c ∈ b, isBlank c = true) ∧ trim a.value = w := by
  simp only [isName, Bool.and_eq_true, decide_eq_true_eq, List.all_eq_true] at h
  obtain ⟨hshorter, hrest⟩ := h
  have hsplit : a.value = a.value.takeWhile isWord ++ a.value.dropWhile isWord :=
    List.takeWhile_append_dropWhile.symm
  have hw : ∀ c ∈ a.value.takeWhile isWord, isWord c = true := fun _ => List.mem_takeWhile_imp
  generalize a.value.takeWhile isWord = w at hsplit hw
  generalize a.value.dropWhile isWord = rest at hsplit hrest hshorter
  have hvisible : ∀ c ∈ w, isBlank c = false := by
    intro c hc
    by_contra hblank
    rw [Bool.not_eq_false] at hblank
    have hword := hw c hc
    rw [isWord_eq_false_of_isBlank hblank] at hword
    contradiction
  obtain ⟨b, hbody, rfl⟩ := exists_rest_of_visible hsplit hvisible a.isBlank_ending
  refine ⟨w, b, hbody, ?_, hw, fun c hc => hrest c (List.mem_append_left _ hc), ?_⟩
  · rintro rfl
    rw [hsplit, List.nil_append] at hshorter
    exact lt_irrefl _ hshorter
  · rw [hsplit]
    exact trim_append (a := []) (by simp) hrest
      ⟨fun c hc => hvisible c (List.mem_of_head? hc), fun c hc => hvisible c (List.mem_of_getLast? hc)⟩

/-- The lexemes of a value that is taken for a name. -/
theorem lex_of_isName (h : isName a.value = true) :
    ∃ kinds depth, lex? 1 a.value = some (kinds.map (⟨·, 1⟩) ++ lineEnd) ∧
      (assignedLine (nested (depth + 1)) (kinds.map (⟨·, 1⟩) ++ lineEnd)).isSome = true ∧
      ((∃ kind, wordKind? (trim a.value) = some kind ∧ IsIdentifier (trim a.value) ∧
          kinds = [kind]) ∨
        (∃ c ∈ (trim a.value).head?, isDigit c = true) ∧ ∃ value, kinds = [.number value]) := by
  obtain ⟨w, b, hbody, hne, hw, hb, htrim⟩ := a.split_of_isName h
  obtain ⟨lexemes, depth, hlex, hline⟩ := exists_lex?_of_assigned a.is_value
  obtain ⟨c, hc, hblank⟩ := a.starts
  have hstart : ∃ c ∈ a.body.head?, isBlank c = false ∧ c ≠ '#' := by
    refine ⟨c, hc, hblank, ?_⟩
    rintro rfl
    obtain ⟨d, ds, rfl⟩ := List.exists_cons_of_ne_nil hne
    rw [hbody] at hc
    obtain rfl : d = '#' := by simpa using hc
    have hhash := hw '#' (by simp)
    revert hhash
    decide
  obtain ⟨kinds, hreads, rfl⟩ := reads_of_lex? a.one_line hstart hlex
  refine ⟨kinds, depth, hlex, hline, ?_⟩
  rw [hbody] at hreads
  rw [htrim]
  rcases hreads.words_cases hne hw hb with hword | hnumber | ⟨value, w', kind, hkind, rfl⟩
  · exact Or.inl hword
  · exact Or.inr hnumber
  · -- Nothing else may follow a number.
    have hnone := assignedLine_number depth value hkind
    rw [List.map_cons, List.map_cons, List.map_nil] at hline
    change (assignedLine (nested (depth + 1))
      (⟨.number value, 1⟩ :: ⟨kind, 1⟩ :: lineEnd)).isSome = true at hline
    rw [hnone] at hline
    contradiction

theorem ofText_value :
    Literal.ofText a.value = (parseExpression? a.value).elim (.error .malformed) Literal.eval := by
  obtain ⟨c, hc, hblank⟩ := a.starts
  obtain ⟨cs, hbody⟩ := List.head?_eq_some_iff.mp hc
  apply ofText_of_head
  rw [value, hbody]
  simpa using hblank

theorem isInert_of_constant {line : Nat} {c : Constant}
    (h : parseExpression? a.value = some (.constant line c)) : IsInert a.value := by
  apply IsInert.literal (.constant c)
  rw [a.ofText_value, h]
  rfl

/-- What is taken for a name has no effect, or is a `yield`. -/
theorem isInert_or_yield (h : isName a.value = true) :
    IsInert a.value ∨ trim a.value = "yield".toList := by
  obtain ⟨kinds, depth, hlex, hline, ⟨kind, hkind, hidentifier, rfl⟩ | ⟨-, value, rfl⟩⟩ :=
    a.lex_of_isName h
  · rcases wordKind?_cases hkind with ⟨rfl, hkeyword⟩ | ⟨-, hfree⟩
    · by_cases hconstant : String.ofList (trim a.value) ∈ constantKeywords
      · obtain ⟨c, hc⟩ := parseExpression?_keyword hconstant hlex
        exact Or.inl (a.isInert_of_constant hc)
      by_cases hyield : String.ofList (trim a.value) = "yield"
      · refine Or.inr ?_
        rw [← hyield, String.toList_ofList]
      · have hnone := assignedLine_keyword depth hkeyword hconstant hyield
        rw [List.map_singleton, List.singleton_append, hnone] at hline
        contradiction
    · exact Or.inl (.name hidentifier hfree)
  · exact Or.inl (a.isInert_of_constant (parseExpression?_atom (l := ⟨.number value, 1⟩) rfl hlex
      fun g => atom_number g value 1))

end Assignment

theorem isName_append {w b : Text} (hne : w ≠ []) (hw : ∀ c ∈ w, isWord c = true)
    (hb : ∀ c ∈ b, isBlank c = true) : isName (w ++ b) = true := by
  have hdrop : (w ++ b).dropWhile isWord = b := by
    rw [List.dropWhile_append_of_pos hw]
    cases b with
    | nil => rfl
    | cons c cs => simp [isWord_eq_false_of_isBlank (hb c (by simp))]
  have hpos := List.length_pos_iff.mpr hne
  rw [isName, hdrop, List.length_append]
  simpa [hpos] using hb

namespace Assignment

variable (a : Assignment)

theorem trim_append_ending : trim a.value ++ Line.ending a.value = a.value := by
  obtain ⟨c, hc, hblank⟩ := a.starts
  obtain ⟨cs, hbody⟩ := List.head?_eq_some_iff.mp hc
  have hleft : trimLeft a.value = a.value := by
    rw [value, hbody]
    exact trimLeft_eq_self (by simpa using hblank)
  rw [trim, hleft]
  exact trimRight_append_ending a.value

/-- A `yield` is taken for a name. -/
theorem isName_of_yield (h : trim a.value = "yield".toList) : isName a.value = true := by
  rw [← a.trim_append_ending, h]
  exact isName_append (by decide) (List.all_eq_true.mp (by decide)) fun _ => isBlank_of_mem_ending

/-- A `yield` is no value without an effect. -/
theorem not_isInert_of_yield (h : trim a.value = "yield".toList) : ¬IsInert a.value := by
  rintro (⟨found, hliteral⟩ | hcall | ⟨-, hfree⟩)
  · obtain ⟨kinds, depth, hlex, -, ⟨kind, hkind, -, rfl⟩ | ⟨hdigit, -⟩⟩ :=
      a.lex_of_isName (a.isName_of_yield h)
    · rw [h] at hkind
      obtain rfl : .keyword "yield" = kind := Option.some.inj hkind
      rw [a.ofText_value, parseExpression?_yield hlex] at hliteral
      contradiction
    · rw [h] at hdigit
      obtain ⟨c, hc, hdigit⟩ := hdigit
      obtain rfl : 'y' = c := Option.some.inj hc
      revert hdigit
      decide
  · rw [h] at hcall
    revert hcall
    decide
  · rw [h] at hfree
    revert hfree
    decide

end Assignment

/-- The text of a value says whether it is taken for one without an effect. -/
theorem isLiteralOrName_eq_ok {value : Text} {found : Bool} (h : isLiteralOrName value = .ok found) :
    found = true ↔ (∃ v, Literal.ofText value = .ok v) ∨
      trim value ∈ ["dict()", "list()", "set()"].map String.toList ∨ isName value = true := by
  rw [isLiteralOrName] at h
  cases hliteral : Literal.ofText value with
  | ok v =>
    rw [hliteral] at h
    simp [← Except.ok.inj h]
  | error e =>
    rw [hliteral] at h
    dsimp only at h
    split at h
    · contradiction
    · rw [← Except.ok.inj h, Bool.or_eq_true, List.any_eq_true, List.mem_map]
      simp only [beq_iff_eq, reduceCtorEq, exists_false, false_or]

/-- The value of an assignment stays unless it cannot have an effect, with the one exception of a
`yield`: its line becomes a `pass`. -/
theorem unused_value_kept_iff (a : Assignment) {previous piece : Text}
    (hwhole : isPartial a.line previous = false) (h : filterUnused a.line previous = .ok piece)
    (hchanged : piece ≠ a.line) :
    ((piece = passFor a.line → IsInert a.value) ∧
      (piece ≠ passFor a.line → piece = indentation a.line ++ a.value)) ↔
      trim a.value ≠ "yield".toList := by
  simp only [filterUnused, a.dropExceptName?_line, hwhole, a.pieces_line, a.trimLeft_gap] at h
  rw [if_neg Bool.false_ne_true] at h
  split at h
  · exact absurd (Except.ok.inj h).symm hchanged
  obtain ⟨found, hfound, h⟩ := Fix.bind_eq_ok.mp h
  have hmeaning := isLiteralOrName_eq_ok hfound
  cases found with
  | true =>
    obtain rfl : passFor a.line = piece := Except.ok.inj h
    constructor
    · rintro ⟨hinert, -⟩ hyield
      exact a.not_isInert_of_yield hyield (hinert rfl)
    · intro hyield
      refine ⟨fun _ => ?_, fun hne => absurd rfl hne⟩
      rcases hmeaning.mp rfl with ⟨v, hv⟩ | hcall | hname
      · exact .literal v hv
      · exact .container hcall
      · exact (a.isInert_or_yield hname).resolve_right hyield
  | false =>
    obtain rfl : indentation a.line ++ a.value = piece := Except.ok.inj h
    have hnot : ¬isName a.value = true := fun hname =>
      Bool.false_ne_true (hmeaning.mpr (Or.inr (Or.inr hname)))
    refine iff_of_true ⟨fun hpass => ?_, fun _ => rfl⟩ fun hyield => hnot (a.isName_of_yield hyield)
    -- The value itself would be a `pass`, which is one word.
    rw [passFor, List.append_assoc] at hpass
    have hvalue := List.append_cancel_left hpass
    exact absurd (hvalue ▸ isName_append (by decide) (List.all_eq_true.mp (by decide))
      fun _ => isBlank_of_mem_ending) hnot

/-- The line `x = yield`. -/
def yieldAssignment : Assignment where
  target := "x ".toList
  gap := [' ']
  body := "yield".toList
  ending := ['\n']
  single := by decide
  blank := List.all_eq_true.mp (by decide)
  starts := ⟨'y', rfl, by decide⟩
  one_line := ⟨by decide, by decide, by decide⟩
  is_value := by decide +kernel

/-- A line that assigns what a generator is sent becomes a `pass`. -/
theorem yield_dropped :
    filterUnused yieldAssignment.line [] = .ok "pass\n".toList ∧
      ¬IsInert yieldAssignment.value := by
  have hpiece : filterUnused yieldAssignment.line [] = .ok "pass\n".toList :=
    Fix.eq_ok_of_toOption (by decide +kernel)
  have hpass : passFor yieldAssignment.line = "pass\n".toList := by decide
  refine ⟨hpiece, fun hinert => ?_⟩
  have hkept := unused_value_kept_iff yieldAssignment (by decide +kernel) hpiece (by decide)
  refine hkept.mp ⟨fun _ => hinert, fun hne => absurd hpass.symm hne⟩ ?_
  decide

end Values

end Pruner.Variable
