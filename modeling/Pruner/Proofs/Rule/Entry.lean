import Pruner.Proofs.Literal.Forms
import Pruner.Proofs.Rule.DuplicateKey
import Pruner.Proofs.Rule.FlatLines
import Pruner.Proofs.Text.Identifier

namespace Pruner.DuplicateKey

open Pruner.Text Pruner.Line Pruner.Token Pruner.Syntax

section Parts

/-- A key: a decimal number, or a string without a `#`. -/
inductive KeyText
  | decimal (d : Decimal)
  | quoted (q : Quoted) (no_hash : '#' ∉ q.body)

/-- A value: a name that is no keyword, or a decimal number. -/
inductive ValueText
  | name (id : Text) (identifier : IsIdentifier id) (free : String.ofList id ∉ keywords)
  | decimal (d : Decimal)

namespace KeyText

def text : KeyText → Text
  | decimal d => d.text
  | quoted q _ => q.text

/-- What the key stands for. -/
def constant : KeyText → Constant
  | decimal d => .int d.value
  | quoted q _ => q.value

theorem ofText_text (k : KeyText) : Literal.ofText k.text = .ok (.constant k.constant) := by
  cases k with
  | decimal d => exact d.ofText_text
  | quoted q _ => exact q.ofText_text

theorem not_mem_text (k : KeyText) : '#' ∉ k.text ∧ '\n' ∉ k.text := by
  cases k with
  | decimal d =>
    exact ⟨d.not_mem_text (by decide) (by decide), d.not_mem_text (by decide) (by decide)⟩
  | quoted q no_hash =>
    refine ⟨?_, q.isAtom.line_ends.2.1⟩
    intro hmem
    rcases q.mem_text hmem with h | h
    · simp at h
    · exact no_hash h

/-- A key starts visibly. -/
theorem exists_text (k : KeyText) : ∃ c cs, k.text = c :: cs ∧ isBlank c = false := by
  cases k with
  | decimal d =>
    obtain ⟨c, cs, htext, hc, -⟩ := d.exists_text
    refine ⟨c, cs, htext, ?_⟩
    have hpart : isIdentifierPart c = true := by
      have hcode := toNat_of_isDigit hc
      rw [isIdentifierPart_ascii (by omega)]
      omega
    exact isBlank_of_isIdentifierPart hpart
  | quoted q _ =>
    obtain ⟨c, cs, htext, hc⟩ := q.exists_text
    have hvisible : ['r', 'R', 'u', 'U', '\'', '"'].all (!isBlank ·) = true := by decide
    exact ⟨c, cs, htext, isBlank_eq_false_of_all hvisible hc⟩

end KeyText

/-- Characters that a value has not. -/
def separators : Text := "\\\n#:;,'\"()[]\x7b\x7d".toList

namespace ValueText

def text : ValueText → Text
  | name id _ _ => id
  | decimal d => d.text

/-- What the value stands for: a variable, by its normal form, or a number. -/
def key : ValueText → Key
  | name id _ _ => .name (String.ofList (normalForm id))
  | decimal d => .constant (.int d.value)

theorem not_mem_text (v : ValueText) {c : Char} (hc : c ∈ separators) : c ∉ v.text := by
  cases v with
  | name id identifier _ =>
    have hpart : separators.all (!isIdentifierPart ·) = true := by decide
    exact identifier.not_mem (by simpa using List.all_eq_true.mp hpart c hc)
  | decimal d =>
    have hdigit : separators.all (fun x => !isDigit x && x != '_') = true := by decide
    have hboth : isDigit c = false ∧ c ≠ '_' := by
      simpa using List.all_eq_true.mp hdigit c hc
    exact d.not_mem_text hboth.1 hboth.2

/-- A value starts visibly. -/
theorem exists_text (v : ValueText) : ∃ c cs, v.text = c :: cs ∧ isBlank c = false := by
  cases v with
  | name id identifier _ =>
    have hpart := identifier.part
    obtain ⟨c, cs, hid, -⟩ := identifier
    exact ⟨c, cs, hid, isBlank_of_isIdentifierPart (hpart c (by simp [hid]))⟩
  | decimal d => exact (KeyText.decimal d).exists_text

theorem flat_text (v : ValueText) : Flat v.text := by
  obtain ⟨c, cs, htext, hc⟩ := v.exists_text
  refine ⟨⟨c, by simp [htext], hc, ?_⟩, ?_⟩
  · rintro rfl
    exact v.not_mem_text (c := '#') (by decide) (by simp [htext])
  · have hsub : ['\'', '"', '\\', '(', ')', '[', ']', '\x7b', '\x7d'] ⊆ separators := by decide
    intro x hx
    rw [isPlain, Bool.not_eq_true', ← Bool.not_eq_true, List.contains_iff_mem]
    exact fun hmem => v.not_mem_text (hsub hmem) hx

/-- A value is complete on its own. -/
theorem isPartial_text (v : ValueText) : isPartial v.text [] = false := by
  have hlines : lines v.text = [v.text] := by
    obtain ⟨c, cs, htext, -⟩ := v.exists_text
    exact lines_of_not_mem (by simp [htext]) (v.not_mem_text (by decide))
  have hscan : (scan v.text).error = none := by
    rw [scan, hlines]
    exact error_flat (by simpa using v.flat_text) 1 []
  have hjoined : isJoined [] = false := rfl
  have hnone {c : Char} (hc : c ∈ separators) : v.text.contains c = false := by
    simpa using v.not_mem_text hc
  rw [isPartial, hnone (by decide), hnone (by decide), hnone (by decide), hscan, hjoined]
  rfl

end ValueText

end Parts

section Lines

/-- Without a colon there is no entry. -/
theorem longestKey?_of_not_mem {t : Text} (h : ':' ∉ t) : longestKey? t = none := by
  induction t with
  | nil => rfl
  | cons c cs ih =>
    have hvalue : valueAfter? (c :: cs) = none := by
      rw [valueAfter?]
      split
      · rename_i rest heq
        have hmem : ':' ∈ c :: cs := (List.dropWhile_sublist isBlank).subset (by
          rw [← trimLeft, heq]
          simp)
        exact absurd hmem h
      · rfl
    rw [List.mem_cons, not_or] at h
    rw [longestKey?, ih h.2, hvalue]
    simp

/-- The key of a line reaches up to its last colon. -/
theorem longestKey?_append {k t v : Text} (hk : '\n' ∉ k) (ht : ':' ∉ t)
    (hv : valueAfter? (':' :: t) = some v) : longestKey? (k ++ ':' :: t) = some (k, v) := by
  induction k with
  | nil =>
    rw [List.nil_append, longestKey?, longestKey?_of_not_mem ht, hv]
    simp
  | cons c k ih =>
    -- A longer key is preferred, and the rest of the key leads to one.
    rw [List.mem_cons, not_or] at hk
    have hc : (c == '\n') = false := by simpa using Ne.symm hk.1
    rw [List.cons_append, longestKey?, hc, ih hk.2]
    simp

/-- An entry of a dictionary. -/
structure Entry where
  key : KeyText
  value : ValueText

namespace Entry

/-- The line of an entry without its line feed. -/
def body (e : Entry) : Text :=
  "    ".toList ++ (e.key.text ++ ':' :: (' ' :: (e.value.text ++ [','])))

def line (e : Entry) : Text :=
  e.body ++ ['\n']

/-- What the key and the value of an entry stand for. -/
def pair (e : Entry) : Key × Key :=
  (.constant e.key.constant, e.value.key)

theorem entryParts?_body (e : Entry) : entryParts? e.body = some (e.key.text, e.value.text) := by
  obtain ⟨c, cs, hkey, hc⟩ := e.key.exists_text
  obtain ⟨d, ds, hvalue, hd⟩ := e.value.exists_text
  have hmargin : trimLeft e.body =
      e.key.text ++ ':' :: (' ' :: (e.value.text ++ [','])) := by
    rw [body, trimLeft_append_of_blank (List.all_eq_true.mp (by decide)), hkey]
    exact trimLeft_eq_self (by simpa using hc)
  have hcolon : ':' ∉ ' ' :: (e.value.text ++ [',']) := by
    simpa using e.value.not_mem_text (c := ':') (by decide)
  have hafter : valueAfter? (':' :: ' ' :: (e.value.text ++ [','])) = some e.value.text := by
    have hcut : trimLeft (' ' :: (e.value.text ++ [','])) = e.value.text ++ [','] := by
      have hstart : trimLeft (e.value.text ++ [',']) = e.value.text ++ [','] := by
        rw [hvalue]
        exact trimLeft_eq_self (by simpa using hd)
      have hspace : trimLeft ([' '] ++ (e.value.text ++ [','])) =
          trimLeft (e.value.text ++ [',']) :=
        trimLeft_append_of_blank (List.all_eq_true.mp (by decide)) _
      exact hspace.trans hstart
    have hcomma : isBlank ',' = false := by decide
    have hnewline : '\n' ∉ e.value.text := e.value.not_mem_text (by decide)
    have hhead : trimLeft (':' :: ' ' :: (e.value.text ++ [','])) =
        ':' :: ' ' :: (e.value.text ++ [',']) := trimLeft_eq_self (by simp [isBlank])
    rw [valueAfter?, hhead]
    simp [hcut, beforeLastComma?, hcomma, hnewline]
  rw [entryParts?, hmargin]
  exact longestKey?_append e.key.not_mem_text.2 hcolon hafter

theorem not_mem_body (e : Entry) : '#' ∉ e.body ∧ '\n' ∉ e.body := by
  have hkey := e.key.not_mem_text
  have hhash : '#' ∉ e.value.text := e.value.not_mem_text (by decide)
  have hnewline : '\n' ∉ e.value.text := e.value.not_mem_text (by decide)
  simp [body, hkey, hhash, hnewline]

/-- The rule finds the key of an entry on its line. -/
theorem hasKey_body (e : Entry) : hasKey e.body e.pair.1 = .ok true := by
  have hhash : e.body.contains '#' = false := by simpa using e.not_mem_body.1
  rw [hasKey, hhash, if_neg Bool.false_ne_true, e.entryParts?_body]
  dsimp only
  rw [e.key.ofText_text]
  dsimp only
  rw [e.value.isPartial_text, pair, Value.isKey, Constant.same_iff.mpr rfl]
  rfl

theorem isLine_line (e : Entry) : IsLine e.line :=
  isLine_append e.not_mem_body.2

theorem trim_line_ne (e : Entry) : trim e.line ≠ passWord := by
  intro h
  have hcolon : ':' ∈ trim e.line := mem_trim (by simp [line, body]) (by decide)
  rw [h] at hcolon
  simp [passWord] at hcolon

end Entry

/-- The lines of a dictionary with one entry on each line. -/
def dictionaryLines (entries : List Entry) : List Text :=
  ['\x7b', '\n'] :: (entries.map Entry.line ++ [['\x7d', '\n']])

/-- The text of a dictionary with one entry on each line. -/
def render (entries : List Entry) : Text :=
  (dictionaryLines entries).flatten

variable {entries : List Entry}

theorem mem_dictionaryLines {l : Text} (h : l ∈ dictionaryLines entries) :
    l = ['\x7b', '\n'] ∨ l = ['\x7d', '\n'] ∨ ∃ e ∈ entries, l = e.line := by
  simp only [dictionaryLines, List.mem_cons, List.mem_append, List.mem_map, List.not_mem_nil,
    or_false] at h
  rcases h with h | ⟨e, he, rfl⟩ | h
  · exact Or.inl h
  · exact Or.inr (Or.inr ⟨e, he, rfl⟩)
  · exact Or.inr (Or.inl h)

theorem lines_render (entries : List Entry) : lines (render entries) = dictionaryLines entries := by
  apply lines_flatten_of_lined
  apply Lined.of_forall
  intro l hl
  rcases mem_dictionaryLines hl with rfl | rfl | ⟨e, -, rfl⟩
  · exact ⟨isLine_append (s := ['\x7b']) (by decide), endsLine_append ['\x7b']⟩
  · exact ⟨isLine_append (s := ['\x7d']) (by decide), endsLine_append ['\x7d']⟩
  · exact ⟨e.isLine_line, endsLine_append _⟩

theorem hash_not_mem_line {l : Text} (h : l ∈ dictionaryLines entries) : '#' ∉ l := by
  rcases mem_dictionaryLines h with rfl | rfl | ⟨e, -, rfl⟩
  · decide
  · decide
  · simpa [Entry.line] using e.not_mem_body.1

/-- A dictionary has no `pass` that could be removed. -/
theorem filter_render (entries : List Entry) :
    UselessPass.filter (render entries) = render entries := by
  apply UselessPass.filter_of_no_pass
  rw [lines_render]
  intro l hl
  rcases mem_dictionaryLines hl with rfl | rfl | ⟨e, -, rfl⟩
  · decide
  · decide
  · exact e.trim_line_ne

/-- The text of a dictionary cut at its line feeds. -/
theorem pieces_render (entries : List Entry) :
    pieces (· == '\n') (render entries) =
      ['\x7b'] :: (entries.map Entry.body ++ [['\x7d'], []]) := by
  have hbodies (bodies : List Text) (h : ∀ b ∈ bodies, '\n' ∉ b) (t : Text) :
      pieces (· == '\n') ((bodies.map (· ++ ['\n'])).flatten ++ t) =
        bodies ++ pieces (· == '\n') t := by
    induction bodies with
    | nil => rfl
    | cons b bodies ih =>
      rw [List.forall_mem_cons] at h
      rw [List.map_cons, List.flatten_cons, List.append_assoc, List.append_assoc,
        List.singleton_append, pieces_separator h.1, ih h.2]
      rfl
  have hsource : render entries =
      ((['\x7b'] :: (entries.map Entry.body ++ [['\x7d']])).map (· ++ ['\n'])).flatten ++ [] := by
    have hline : Entry.line = fun e => e.body ++ ['\n'] := rfl
    simp [render, dictionaryLines, hline, Function.comp_def]
  rw [hsource, hbodies]
  · simp [pieces, pieces.go]
  · intro b hb
    simp only [List.mem_cons, List.mem_append, List.mem_map, List.not_mem_nil, or_false] at hb
    rcases hb with rfl | ⟨e, -, rfl⟩ | rfl
    · decide
    · exact e.not_mem_body.2
    · decide

/-- An entry stands alone on its line, which is counted from the opening brace. -/
theorem standsAlone_entry {i : Nat} {e : Entry} (h : entries[i]? = some e) :
    standsAlone (pieces (· == '\n') (render entries)) (((i + 2 : Nat) : Int), e.pair.1) =
      .ok true := by
  have hline : lineAt (pieces (· == '\n') (render entries)) ((i + 2 : Nat) : Int) = .ok e.body := by
    have hindex : ((i + 2 : Nat) : Int) - 1 = ((i + 1 : Nat) : Int) := by omega
    have hget : (['\x7b'] :: (entries.map Entry.body ++ [['\x7d'], []]))[i + 1]? = some e.body := by
      obtain ⟨hi, -⟩ := List.getElem?_eq_some_iff.mp h
      rw [List.getElem?_cons_succ, List.getElem?_append_left (by simpa using hi),
        List.getElem?_map, h]
      rfl
    rw [lineAt, pieces_render, hindex, if_neg (by omega), if_neg (by omega), Int.toNat_natCast,
      hget]
  rw [standsAlone, hline]
  exact e.hasKey_body

end Lines

end Pruner.DuplicateKey
