import Pruner.Proofs.Literal.Atom

namespace Pruner.Syntax

open Pruner.Text Pruner.Token

section Decimals

/-- A decimal whole number as it is written: groups of digits with underscores between them. It has
zeros in front only if it is zero, and otherwise no more digits than a number may have. -/
structure Decimal where
  groups : List Text
  ne_nil : groups ≠ []
  digits : ∀ g ∈ groups, g ≠ [] ∧ ∀ c ∈ g, isDigit c = true
  zeros : groups.flatten.head? = some '0' → ∀ c ∈ groups.flatten, c = '0'
  short : groups.flatten.length ≤ maxDigits ∨ ∀ c ∈ groups.flatten, c = '0'

def Decimal.text (d : Decimal) : Text :=
  join ['_'] d.groups

def Decimal.value (d : Decimal) : Nat :=
  Nat.ofDigitChars 10 d.groups.flatten 0

theorem ne_of_isDigit {c d : Char} (hc : isDigit c = true) (hd : isDigit d = false) : c ≠ d := by
  rintro rfl
  rw [hc] at hd
  contradiction

/-- Where the digits stand in ASCII. -/
theorem toNat_of_isDigit {c : Char} (h : isDigit c = true) : 48 ≤ c.toNat ∧ c.toNat ≤ 57 := by
  simp only [isDigit, Bool.and_eq_true, decide_eq_true_eq] at h
  exact h

theorem strictRun?_cons {c : Char} (hc : isDigit c = true) (t : Text) :
    strictRun? isDigit (c :: t) = (strictRun? isDigit t).map (· + 1) := by
  have hne : (c == '_') = false := by simpa using ne_of_isDigit hc (by decide)
  rw [strictRun?.eq_def]
  simp only [hne, hc, Bool.false_eq_true, if_false, if_true]

/-- An underscore counts if a digit follows it. -/
theorem strictRun?_underscore {c : Char} (hc : isDigit c = true) (t : Text) :
    strictRun? isDigit ('_' :: c :: t) = (strictRun? isDigit (c :: t)).map (· + 1) := by
  rw [strictRun?_cons hc, strictRun?.eq_def, Option.map_map]
  simp only [beq_self_eq_true, hc, if_true]
  rfl

theorem strictRun?_digits {g : Text} (hg : ∀ c ∈ g, isDigit c = true) (t : Text) :
    strictRun? isDigit (g ++ t) = (strictRun? isDigit t).map (· + g.length) := by
  induction g with
  | nil => simp
  | cons c g ih =>
    rw [List.forall_mem_cons] at hg
    rw [List.cons_append, strictRun?_cons hg.1, ih hg.2, Option.map_map]
    rfl

theorem strictRun?_join {groups : List Text}
    (h : ∀ g ∈ groups, g ≠ [] ∧ ∀ c ∈ g, isDigit c = true) (t : Text) :
    strictRun? isDigit (join ['_'] groups ++ t) =
      (strictRun? isDigit t).map (· + (join ['_'] groups).length) := by
  induction groups using join.induct with
  | case1 => simp [join]
  | case2 g => exact strictRun?_digits (h g (by simp)).2 t
  | case3 g next rest ih =>
    obtain ⟨hg, hrest⟩ := List.forall_mem_cons.mp h
    have hrun := ih hrest
    -- The next group starts with a digit, which the underscore needs.
    obtain ⟨c, cs, hnext, hc⟩ : ∃ c cs, join ['_'] (next :: rest) ++ t = c :: cs ∧
        isDigit c = true := by
      obtain ⟨hne, hdigits⟩ := hrest next (by simp)
      obtain ⟨c, cs, rfl⟩ := List.exists_cons_of_ne_nil hne
      cases rest with
      | nil => exact ⟨c, cs ++ t, rfl, hdigits c (by simp)⟩
      | cons other rest => exact ⟨c, _, rfl, hdigits c (by simp)⟩
    have hsplit : join ['_'] (g :: next :: rest) ++ t =
        g ++ '_' :: (join ['_'] (next :: rest) ++ t) := by
      simp [join]
    have hlength : (join ['_'] (g :: next :: rest)).length =
        g.length + 1 + (join ['_'] (next :: rest)).length := by
      simp only [join, List.length_append, List.length_singleton]
    rw [hsplit, strictRun?_digits hg.2, hnext, strictRun?_underscore hc, ← hnext, hrun, hlength,
      Option.map_map, Option.map_map]
    congr 1
    funext n
    simp only [Function.comp_apply]
    omega

theorem filter_join {groups : List Text}
    (h : ∀ g ∈ groups, g ≠ [] ∧ ∀ c ∈ g, isDigit c = true) :
    (join ['_'] groups).filter (· != '_') = groups.flatten := by
  have hgroup {g : Text} (hg : ∀ c ∈ g, isDigit c = true) : g.filter (· != '_') = g := by
    rw [List.filter_eq_self]
    intro c hc
    simpa using ne_of_isDigit (hg c hc) (by decide)
  induction groups using join.induct with
  | case1 => rfl
  | case2 g => simp [join, hgroup (h g (by simp)).2]
  | case3 g next rest ih =>
    obtain ⟨hg, hrest⟩ := List.forall_mem_cons.mp h
    rw [join, List.filter_append, List.filter_append, hgroup hg.2, ih hrest]
    simp

/-- The value of digits does not depend on which way it is computed. -/
theorem digitsValue_eq {t : Text} (h : ∀ c ∈ t, isDigit c = true) :
    digitsValue 10 t = Nat.ofDigitChars 10 t 0 := by
  have hfold (n : Nat) : t.foldl (fun n c => n * 10 + digitValue c) n = Nat.ofDigitChars 10 t n := by
    induction t generalizing n with
    | nil => rfl
    | cons c t ih =>
      rw [List.forall_mem_cons] at h
      rw [List.foldl_cons, ih h.2, Nat.ofDigitChars_cons, digitValue, if_pos h.1, Nat.mul_comm]
      rfl
  exact hfold 0

namespace Decimal

variable (d : Decimal)

theorem digits_flatten : ∀ c ∈ d.groups.flatten, isDigit c = true := by
  intro c hc
  obtain ⟨g, hg, hmem⟩ := List.mem_flatten.mp hc
  exact (d.digits g hg).2 c hmem

theorem mem_text {c : Char} (hc : c ∈ d.text) : c = '_' ∨ c ∈ d.groups.flatten := by
  rcases mem_of_mem_join hc with hmem | ⟨g, hg, hmem⟩
  · exact Or.inl (List.mem_singleton.mp hmem)
  · exact Or.inr (List.mem_flatten.mpr ⟨g, hg, hmem⟩)

/-- Neither digits nor underscores. -/
theorem not_mem_text {c : Char} (hdigit : isDigit c = false) (hc : c ≠ '_') : c ∉ d.text := by
  intro hmem
  rcases d.mem_text hmem with h | h
  · exact hc h
  · exact ne_of_isDigit (d.digits_flatten c h) hdigit rfl

/-- A number starts with the first digit of its first group. -/
theorem exists_text : ∃ c cs, d.text = c :: cs ∧ isDigit c = true ∧
    d.groups.flatten.head? = some c := by
  obtain ⟨g, rest, hgroups⟩ := List.exists_cons_of_ne_nil d.ne_nil
  obtain ⟨hne, hdigits⟩ := d.digits g (by simp [hgroups])
  obtain ⟨c, cs, rfl⟩ := List.exists_cons_of_ne_nil hne
  rw [text, hgroups]
  cases rest with
  | nil => exact ⟨c, cs, rfl, hdigits c (by simp), rfl⟩
  | cons next rest => exact ⟨c, _, rfl, hdigits c (by simp), rfl⟩

theorem numberLength_text : numberLength? (d.text ++ ['\n']) = some d.text.length := by
  have hrun : strictRun? isDigit (d.text ++ ['\n']) = some d.text.length := by
    rw [text, strictRun?_join d.digits]
    simp [strictRun?, isDigit]
  have htail : decimalTail? ['\n'] = some 0 := by decide
  have hzeros : d.groups.flatten.head? = some '0' →
      d.text.all (fun c => c == '0' || c == '_') = true := by
    intro hhead
    rw [List.all_eq_true]
    intro c hc
    rcases d.mem_text hc with rfl | hmem
    · rfl
    · simp [d.zeros hhead c hmem]
  obtain ⟨first, cs, htext, hdigit, hhead⟩ := d.exists_text
  -- Numbers that start with a point or with a zero are read by rules of their own.
  rw [numberLength?.eq_def]
  split
  · rename_i heq
    rw [htext, List.cons_append] at heq
    rw [(List.cons.inj heq).1] at hdigit
    contradiction
  · rename_i c more heq
    have hfirst : first = '0' := by
      rw [htext, List.cons_append] at heq
      exact (List.cons.inj heq).1
    -- After the zero comes another digit, an underscore or the end.
    have hbase (x : Char) (hx : isDigit x = false ∧ x ≠ '_' ∧ x ≠ '\n') : (c == x) = false := by
      rw [beq_eq_false_iff_ne]
      rintro rfl
      have hmem : c ∈ d.text ++ ['\n'] := by simp [heq]
      rcases List.mem_append.mp hmem with hmem | hmem
      · exact d.not_mem_text hx.1 hx.2.1 hmem
      · exact hx.2.2 (List.mem_singleton.mp hmem)
    rw [hrun, hbase 'x' (by decide), hbase 'X' (by decide), hbase 'o' (by decide),
      hbase 'O' (by decide), hbase 'b' (by decide), hbase 'B' (by decide)]
    simp only [Bool.or_self, Bool.false_eq_true, if_false, Option.bind_eq_bind, Option.bind_some,
      List.drop_left, List.take_left, htail, hzeros (hfirst ▸ hhead)]
    rfl
  · rw [hrun]
    simp only [Option.bind_eq_bind, Option.bind_some, List.drop_left, htail, Nat.add_zero]

theorem numberValue_text : numberValue? d.text = some (.int d.value) := by
  have hfilter : d.text.filter (· != '_') = d.groups.flatten := filter_join d.digits
  have hdigits := d.digits_flatten
  have hplain (decimal : Text → Option Binary64) :
      numberValue?.plain d.groups.flatten decimal = some (.int d.value) := by
    have hshort : (decide (d.groups.flatten.length > maxDigits) &&
        d.groups.flatten.any (· != '0')) = false := by
      rcases d.short with hshort | hzeros
      · rw [decide_eq_false (Nat.not_lt.mpr hshort), Bool.false_and]
      · have hany : d.groups.flatten.any (· != '0') = false := by
          rw [List.any_eq_false]
          intro c hc
          simp [hzeros c hc]
        rw [hany, Bool.and_false]
    rw [numberValue?.plain, if_pos (List.all_eq_true.mpr hdigits), hshort,
      if_neg Bool.false_ne_true, digitsValue_eq hdigits]
    rfl
  rw [numberValue?, hfilter]
  dsimp only
  split
  · rename_i c cs heq
    have hc : isDigit c = true := hdigits c (by simp [heq])
    have hbase (x : Char) (hx : isDigit x = false) : (c == x) = false := by
      simpa using ne_of_isDigit hc hx
    rw [hbase 'x' (by decide), hbase 'X' (by decide), hbase 'o' (by decide), hbase 'O' (by decide),
      hbase 'b' (by decide), hbase 'B' (by decide)]
    simp only [Bool.or_self, Bool.false_eq_true, if_false]
    exact hplain _
  · exact hplain _

theorem isAtom : IsAtom d.text (.number (.int d.value)) := by
  obtain ⟨c, cs, htext, hc, -⟩ := d.exists_text
  have hne (x : Char) (hx : isDigit x = false) : c ≠ x := ne_of_isDigit hc hx
  refine ⟨rfl, ⟨c, by simp [htext], ?_⟩, ⟨?_, ?_, ?_⟩, ?_⟩
  · simp [hne ' ' (by decide), hne '\t' (by decide), hne '\x0c' (by decide), hne '\\' (by decide),
      hne '#' (by decide)]
  · exact d.not_mem_text (by decide) (by decide)
  · exact d.not_mem_text (by decide) (by decide)
  · exact d.not_mem_text (by decide) (by decide)
  · have hlength := d.numberLength_text
    have hvalue := d.numberValue_text
    rw [htext, List.cons_append] at hlength ⊢
    rw [htext] at hvalue
    simp [Reader.next?, afterMargin, isInnerBlank, isWordStart, isQuote, hc, hlength, hvalue,
      hne ' ' (by decide), hne '\t' (by decide), hne '\x0c' (by decide), hne '\\' (by decide),
      hne '#' (by decide), hne '\n' (by decide), hne '\'' (by decide), hne '"' (by decide)]

/-- A decimal number is read as its value. -/
theorem ofText_text : Literal.ofText d.text = .ok (.constant (.int d.value)) :=
  d.isAtom.ofText fun g => atom_number g (.int d.value) 1

end Decimal

end Decimals

section Strings

/-- A string on one line as it is written: letters that mark it, quotes and a body without a
backslash. The quotes come once or threefold, and the body does not close them. -/
structure Quoted where
  letters : Text
  letters_mem : letters ∈ [[], ['r'], ['R'], ['u'], ['U']]
  quote : Char
  quote_mem : quote ∈ ['\'', '"']
  triple : Bool
  body : Text
  plain : ∀ c ∈ body, c ∉ ['\\', '\n', '\r', '\x00']
  closed : if triple then ¬[quote, quote, quote] <:+: body ∧ body.getLast? ≠ some quote
    else quote ∉ body

namespace Quoted

def quotes (q : Quoted) : Text :=
  if q.triple then [q.quote, q.quote, q.quote] else [q.quote]

def text (q : Quoted) : Text :=
  q.letters ++ (q.quotes ++ (q.body ++ q.quotes))

/-- The points that the string stands for. -/
def value (q : Quoted) : Constant :=
  .str (q.body.map Char.toNat)

def mark (q : Quoted) : StringMark :=
  ⟨(q.letters.map lower).contains 'r', false, false⟩

end Quoted

/-- A quote closes a body without one. -/
theorem single_append {quote : Char} {body : Text} (hplain : '\\' ∉ body ∧ '\n' ∉ body)
    (hquote : quote ∉ body) (hslash : quote ≠ '\\') (t : Text) :
    stringLength?.single quote (body ++ quote :: t) = some (body.length + 1) := by
  induction body with
  | nil =>
    rw [List.nil_append, stringLength?.single.eq_def]
    split
    · contradiction
    · rename_i heq
      exact absurd (List.cons.inj heq).1 hslash
    · rename_i c cs heq
      obtain ⟨rfl, -⟩ := List.cons.inj heq
      simp
  | cons c body ih =>
    simp only [List.mem_cons, not_or] at hplain hquote
    rw [List.cons_append, stringLength?.single.eq_def]
    split
    · contradiction
    · rename_i heq
      exact absurd (List.cons.inj heq).1.symm hplain.1.1
    · rename_i d ds heq
      obtain ⟨rfl, rfl⟩ := List.cons.inj heq
      have hne : (c == quote) = false := by simpa using Ne.symm hquote.1
      have hfeed : (c == '\n') = false := by simpa using Ne.symm hplain.2.1
      rw [hne, hfeed, ih ⟨hplain.1.2, hplain.2.2⟩ hquote.2]
      rfl

/-- Three quotes do not start inside a body that neither has three of them nor ends with one. -/
theorem not_isPrefixOf_of_body {quote c : Char} {body : Text}
    (hinner : ¬[quote, quote, quote] <:+: c :: body) (hlast : (c :: body).getLast? ≠ some quote)
    (t : Text) :
    (c == quote && [quote, quote].isPrefixOf (body ++ quote :: quote :: quote :: t)) = false := by
  rw [Bool.and_eq_false_iff]
  by_cases hc : c = quote
  · subst hc
    right
    rw [← Bool.not_eq_true, List.isPrefixOf_iff_prefix]
    intro hopens
    cases body with
    | nil => exact hlast rfl
    | cons d rest =>
      rw [List.cons_append, List.cons_prefix_cons] at hopens
      obtain ⟨rfl, hopens⟩ := hopens
      cases rest with
      | nil => exact hlast rfl
      | cons e rest =>
        rw [List.cons_append, List.cons_prefix_cons] at hopens
        obtain ⟨rfl, -⟩ := hopens
        exact hinner ⟨[], rest, rfl⟩
  · left
    simpa using hc

/-- Three quotes close a body that neither has three of them nor ends with one. -/
theorem triple_append {quote : Char} {body : Text} (hslash : '\\' ∉ body)
    (hinner : ¬[quote, quote, quote] <:+: body) (hlast : body.getLast? ≠ some quote)
    (hquote : quote ≠ '\\') (t : Text) :
    stringLength?.triple quote (body ++ quote :: quote :: quote :: t) = some (body.length + 3) := by
  induction body with
  | nil =>
    rw [List.nil_append, stringLength?.triple.eq_def]
    split
    · contradiction
    · rename_i heq
      exact absurd (List.cons.inj heq).1 hquote
    · rename_i c cs heq
      obtain ⟨rfl, rfl⟩ := List.cons.inj heq
      simp
  | cons c body ih =>
    have hskip := not_isPrefixOf_of_body hinner hlast t
    simp only [List.mem_cons, not_or] at hslash
    have hinner' : ¬[quote, quote, quote] <:+: body := fun h =>
      hinner (h.trans (List.suffix_cons c body).isInfix)
    have hlast' : body.getLast? ≠ some quote := by
      intro h
      apply hlast
      rw [List.getLast?_cons, h]
      rfl
    rw [List.cons_append, stringLength?.triple.eq_def]
    split
    · contradiction
    · rename_i heq
      exact absurd (List.cons.inj heq).1.symm hslash.1
    · rename_i d ds heq
      obtain ⟨rfl, rfl⟩ := List.cons.inj heq
      rw [hskip, ih hslash.2 hinner' hlast']
      rfl

/-- Without a backslash every character stands for itself. -/
theorem unescape?_of_plain {t : Text} (h : '\\' ∉ t) :
    unescape? false t = some (t.map Char.toNat) := by
  have hgo (found : List Nat) :
      unescape?.go false 0 found t = some ((t.map Char.toNat).reverse ++ found) := by
    induction t generalizing found with
    | nil => rfl
    | cons c cs ih =>
      rw [List.mem_cons, not_or] at h
      have hc : (c == '\\') = false := by simpa using Ne.symm h.1
      rw [unescape?.go, hc, if_neg Bool.false_ne_true, ih h.2]
      simp
  rw [unescape?, hgo]
  simp

namespace Quoted

variable (q : Quoted)

theorem not_mem_body {c : Char} (hc : c ∈ ['\\', '\n', '\r', '\x00']) : c ∉ q.body :=
  fun hmem => q.plain c hmem hc

theorem isQuote_quote : isQuote q.quote = true := by
  have hquote := q.quote_mem
  simp only [List.mem_cons, List.not_mem_nil, or_false] at hquote
  rcases hquote with h | h <;> rw [h] <;> rfl

theorem quote_ne {c : Char} (hc : isQuote c = false) : q.quote ≠ c := by
  intro h
  rw [← h, q.isQuote_quote] at hc
  contradiction

theorem quotes_eq : ∃ cs, q.quotes = q.quote :: cs := by
  rw [quotes]
  split
  · exact ⟨_, rfl⟩
  · exact ⟨_, rfl⟩

/-- The string from its quotes on, with the line feed after it. -/
def tail : Text :=
  q.quotes ++ (q.body ++ (q.quotes ++ ['\n']))

theorem text_append : q.text ++ ['\n'] = q.letters ++ q.tail := by
  simp [text, tail]

theorem tail_eq : ∃ cs, q.tail = q.quote :: cs := by
  obtain ⟨cs, hquotes⟩ := q.quotes_eq
  exact ⟨cs ++ (q.body ++ (q.quotes ++ ['\n'])), by rw [tail, hquotes, List.cons_append]⟩

theorem stringMark_text : stringMark? (q.text ++ ['\n']) = some (q.mark, q.letters.length) := by
  obtain ⟨cs, htail⟩ := q.tail_eq
  have hquote := q.quote_mem
  have hletters := q.letters_mem
  rw [q.text_append, htail, mark]
  simp only [List.mem_cons, List.not_mem_nil, or_false] at hletters hquote
  rcases hquote with hquote | hquote <;> rw [hquote] <;>
    rcases hletters with h | h | h | h | h <;> rw [h] <;> rfl

/-- A string with single quotes does not start with three of them. -/
theorem not_isPrefixOf_of_single (h : q.triple = false) :
    [q.quote, q.quote].isPrefixOf (q.body ++ (q.quote :: ['\n'])) = false := by
  have hclosed := q.closed
  rw [h] at hclosed
  simp only [Bool.false_eq_true, if_false] at hclosed
  rw [← Bool.not_eq_true, List.isPrefixOf_iff_prefix]
  intro hopens
  cases hbody : q.body with
  | nil =>
    rw [hbody, List.nil_append, List.cons_prefix_cons, List.cons_prefix_cons] at hopens
    exact q.quote_ne (by decide) hopens.2.1
  | cons c cs =>
    rw [hbody, List.cons_append, List.cons_prefix_cons] at hopens
    exact hclosed (by simp [hbody, hopens.1])

theorem stringLength_tail :
    stringLength? q.tail = some (2 * q.quotes.length + q.body.length) := by
  have hclosed := q.closed
  have hslash : q.quote ≠ '\\' := q.quote_ne (by decide)
  rw [tail, quotes]
  by_cases htriple : q.triple = true
  · rw [if_pos htriple] at hclosed ⊢
    have hlength := triple_append (q.not_mem_body (by simp)) hclosed.1 hclosed.2 hslash ['\n']
    simp [stringLength?, hlength]
    omega
  · have hopens := q.not_isPrefixOf_of_single (by simpa using htriple)
    rw [if_neg htriple] at hclosed ⊢
    have hlength := single_append ⟨q.not_mem_body (by simp), q.not_mem_body (by simp)⟩ hclosed
      hslash ['\n']
    rw [List.singleton_append, List.singleton_append, stringLength?, hopens,
      if_neg Bool.false_ne_true, hlength]
    simp
    omega

theorem stringBody_tail : stringBody q.tail (2 * q.quotes.length + q.body.length) = q.body := by
  have hcut : (q.tail.take (q.quotes.length + q.body.length)).drop q.quotes.length = q.body := by
    rw [tail, ← List.append_assoc, ← List.length_append, List.take_left, List.drop_left]
  -- How many quotes there are is read off the start of the string.
  have hquotes : (if (decide (2 * q.quotes.length + q.body.length ≥ 6) &&
      [q.tail.headD ' ', q.tail.headD ' ', q.tail.headD ' '].isPrefixOf q.tail) = true
        then 3 else 1) = q.quotes.length := by
    obtain ⟨cs, htail⟩ := q.tail_eq
    rw [htail, List.headD_cons, ← htail]
    by_cases htriple : q.triple = true
    · have hopens : [q.quote, q.quote, q.quote].isPrefixOf q.tail = true := by
        rw [List.isPrefixOf_iff_prefix, tail, quotes, if_pos htriple]
        exact List.prefix_append _ _
      rw [hopens, quotes, if_pos htriple]
      simp
    · have hopens : [q.quote, q.quote, q.quote].isPrefixOf q.tail = false := by
        have hrest := q.not_isPrefixOf_of_single (by simpa using htriple)
        rw [← Bool.not_eq_true, List.isPrefixOf_iff_prefix] at hrest ⊢
        rw [tail, quotes, if_neg htriple, List.singleton_append, List.cons_prefix_cons]
        exact fun h => hrest h.2
      rw [hopens, Bool.and_false, quotes, if_neg htriple]
      rfl
  rw [stringBody, hquotes]
  have hlength : 2 * q.quotes.length + q.body.length - q.quotes.length =
      q.quotes.length + q.body.length := by omega
  rw [hlength, hcut]

theorem bodyPoints_body : bodyPoints? q.mark q.body = some (q.body.map Char.toNat) := by
  rw [bodyPoints?, mark]
  simp only [Bool.false_and, Bool.false_eq_true, if_false]
  split
  · rfl
  · exact unescape?_of_plain (q.not_mem_body (by simp))

/-- The first character of a string is a letter of its mark or a quote. -/
theorem exists_text : ∃ c cs, q.text = c :: cs ∧ c ∈ ['r', 'R', 'u', 'U', '\'', '"'] := by
  have hletters := q.letters_mem
  have hquote := q.quote_mem
  obtain ⟨cs, hquotes⟩ := q.quotes_eq
  rw [text, hquotes]
  simp only [List.mem_cons, List.not_mem_nil, or_false] at hletters hquote
  rcases hletters with h | h | h | h | h <;> rw [h]
  · exact ⟨q.quote, _, rfl, by simp [hquote]⟩
  all_goals exact ⟨_, _, rfl, by simp⟩

theorem mem_text {c : Char} (hc : c ∈ q.text) :
    c ∈ ['r', 'R', 'u', 'U', '\'', '"'] ∨ c ∈ q.body := by
  have hletters := q.letters_mem
  have hquotes : c ∈ q.quotes → c ∈ ['r', 'R', 'u', 'U', '\'', '"'] := by
    intro hmem
    have hquote := q.quote_mem
    have hsame : c = q.quote := by
      rw [quotes] at hmem
      split at hmem <;> simpa using hmem
    rw [hsame]
    exact List.mem_append_right ['r', 'R', 'u', 'U'] hquote
  rw [text, List.mem_append, List.mem_append, List.mem_append] at hc
  rcases hc with hc | hc | hc | hc
  · simp only [List.mem_cons, List.not_mem_nil, or_false] at hletters
    left
    rcases hletters with h | h | h | h | h <;> rw [h] at hc <;> simp_all
  · exact Or.inl (hquotes hc)
  · exact Or.inr hc
  · exact Or.inl (hquotes hc)

theorem isAtom : IsAtom q.text (.string q.mark q.body) := by
  obtain ⟨c, cs, htext, hc⟩ := q.exists_text
  have hstart : ['r', 'R', 'u', 'U', '\'', '"'].all (fun x =>
      !([' ', '\t', '\x0c', '\\', '#'].contains x) && !isInnerBlank x && !(x == '\n') &&
        (isWordStart x || isQuote x)) = true := by
    decide
  have hfirst := List.all_eq_true.mp hstart c hc
  rw [Bool.and_eq_true, Bool.and_eq_true, Bool.and_eq_true, Bool.not_eq_true', Bool.not_eq_true',
    Bool.not_eq_true'] at hfirst
  obtain ⟨⟨⟨hcontains, hblank⟩, hfeed⟩, hword⟩ := hfirst
  have hmargin : c ∉ [' ', '\t', '\x0c', '\\', '#'] := by
    rw [← List.contains_iff_mem, hcontains]
    exact Bool.false_ne_true
  have hnot {x : Char} (hx : x ∈ ['\\', '\n', '\r', '\x00'])
      (hx' : x ∉ ['r', 'R', 'u', 'U', '\'', '"']) : x ∉ q.text := by
    intro hmem
    rcases q.mem_text hmem with h | h
    · exact hx' h
    · exact q.not_mem_body hx h
  have hends : '\r' ∉ q.text ∧ '\n' ∉ q.text ∧ '\x00' ∉ q.text :=
    ⟨hnot (by simp) (by decide), hnot (by simp) (by decide), hnot (by simp) (by decide)⟩
  refine ⟨rfl, ⟨c, by simp [htext], hmargin⟩, hends, ?_⟩
  -- The reader goes by the first character to the rule for strings, and there by the mark.
  have hmark := q.stringMark_text
  have hdrop : (q.text ++ ['\n']).drop q.letters.length = q.tail := by
    rw [q.text_append, List.drop_left]
  have hlines : (q.body.filter (· == '\n')).length = 0 := by
    rw [List.length_eq_zero_iff, List.filter_eq_nil_iff]
    intro x hx
    have hne : x ≠ '\n' := fun h => q.not_mem_body (by simp) (h ▸ hx)
    simpa using hne
  have hlength : q.letters.length + (2 * q.quotes.length + q.body.length) = q.text.length := by
    simp only [text, List.length_append]
    omega
  simp only [List.mem_cons, List.not_mem_nil, or_false, not_or] at hmargin
  rw [htext, List.cons_append] at hmark hdrop ⊢
  rw [Reader.next?.eq_def]
  simp only [afterMargin, Bool.false_eq_true, if_false, hblank, hmargin, hfeed, hword, if_true,
    beq_iff_eq, hmark, hdrop, q.stringLength_tail, Option.bind_eq_bind, Option.bind_some,
    q.stringBody_tail, hlines, hlength, htext]
  rfl

/-- A string is read as its characters. -/
theorem ofText_text : Literal.ofText q.text = .ok (.constant q.value) :=
  q.isAtom.ofText fun g => atom_string g 1 ⟨rfl, rfl⟩ q.bodyPoints_body

end Quoted

end Strings

end Pruner.Syntax
