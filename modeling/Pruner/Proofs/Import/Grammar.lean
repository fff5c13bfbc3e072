import Pruner.Proofs.Rule.Import
import Pruner.Proofs.Syntax.OneLine
import Pruner.Syntax.Statement

namespace Pruner.Syntax

open LexemeParser

section Parsers

/-- A parser takes only lexemes of certain kinds. -/
def Takes (P : LexemeKind → Prop) {α : Type} (p : LexemeParser α) : Prop :=
  ∀ lexemes a rest, p lexemes = some (a, rest) →
    ∃ used, lexemes = used ++ rest ∧ ∀ l ∈ used, P l.kind

variable {P : LexemeKind → Prop} {α β : Type} {lexemes rest : List Lexeme}

theorem bind_eq_some {p : LexemeParser α} {f : α → LexemeParser β} {b : β}
    (h : (p >>= f) lexemes = some (b, rest)) :
    ∃ a middle, p lexemes = some (a, middle) ∧ f a middle = some (b, rest) := by
  obtain ⟨⟨a, middle⟩, hp, hf⟩ := Option.bind_eq_some_iff.mp h
  exact ⟨a, middle, hp, hf⟩

theorem takes_pure (a : α) : Takes P (pure a) := by
  intro lexemes a' rest h
  obtain ⟨-, rfl⟩ := Prod.mk.inj (Option.some.inj h)
  exact ⟨[], rfl, by simp⟩

theorem Takes.bind {p : LexemeParser α} {f : α → LexemeParser β} (hp : Takes P p)
    (hf : ∀ a, Takes P (f a)) : Takes P (p >>= f) := by
  intro lexemes b rest h
  obtain ⟨a, middle, hfirst, hsecond⟩ := bind_eq_some h
  obtain ⟨used, rfl, hused⟩ := hp _ _ _ hfirst
  obtain ⟨used', rfl, hused'⟩ := hf a _ _ _ hsecond
  refine ⟨used ++ used', by simp, ?_⟩
  intro l hl
  rcases List.mem_append.mp hl with hl | hl
  · exact hused l hl
  · exact hused' l hl

theorem takes_many_go {p : LexemeParser α} (hp : Takes P p) (fuel : List Lexeme) (found : List α) :
    Takes P (many.go p fuel found) := by
  induction fuel generalizing found with
  | nil =>
    intro lexemes a rest h
    obtain ⟨-, rfl⟩ := Prod.mk.inj (Option.some.inj h)
    exact ⟨[], rfl, by simp⟩
  | cons l fuel ih =>
    intro lexemes a rest h
    rw [many.go] at h
    split at h
    · rename_i b middle hfirst
      obtain ⟨used, rfl, hused⟩ := hp _ _ _ hfirst
      obtain ⟨used', rfl, hused'⟩ := ih (b :: found) _ _ _ h
      refine ⟨used ++ used', by simp, ?_⟩
      intro l hl
      rcases List.mem_append.mp hl with hl | hl
      · exact hused l hl
      · exact hused' l hl
    · obtain ⟨-, rfl⟩ := Prod.mk.inj (Option.some.inj h)
      exact ⟨[], rfl, by simp⟩

theorem takes_many {p : LexemeParser α} (hp : Takes P p) : Takes P (many p) :=
  fun _ _ _ h => takes_many_go hp _ [] _ _ _ h

theorem takes_optional {p : LexemeParser α} (hp : Takes P p) : Takes P (optional p) := by
  intro lexemes a rest h
  change ((p lexemes).bind fun x => some (some x.1, x.2)).orElse
    (fun _ => some (none, lexemes)) = some (a, rest) at h
  cases hfirst : p lexemes with
  | none =>
    rw [hfirst] at h
    obtain ⟨-, rfl⟩ := Prod.mk.inj (Option.some.inj h)
    exact ⟨[], rfl, by simp⟩
  | some found =>
    rw [hfirst] at h
    obtain ⟨-, rfl⟩ := Prod.mk.inj (Option.some.inj h)
    exact hp _ _ _ hfirst

theorem line_eq_some {n : Nat} (h : line lexemes = some (n, rest)) : rest = lexemes := by
  cases lexemes with
  | nil => contradiction
  | cons l ls => exact (Prod.mk.inj (Option.some.inj h)).2.symm

theorem expect_eq_some {kind : LexemeKind} {u : Unit} (h : expect kind lexemes = some (u, rest)) :
    ∃ l, lexemes = l :: rest ∧ l.kind = kind := by
  cases lexemes with
  | nil => contradiction
  | cons l ls =>
    change (if l.kind == kind then skip else failure : LexemeParser Unit) (l :: ls) = _ at h
    split at h
    · rename_i hkind
      obtain ⟨-, rfl⟩ := Prod.mk.inj (Option.some.inj h)
      exact ⟨l, rfl, by simpa using hkind⟩
    · contradiction

theorem word_eq_some {id : String} (h : word lexemes = some (id, rest)) :
    ∃ l, lexemes = l :: rest ∧ l.kind = .word id := by
  cases lexemes with
  | nil => contradiction
  | cons l ls =>
    obtain ⟨kind, number⟩ := l
    cases kind with
    | word id' =>
      obtain ⟨rfl, rfl⟩ := Prod.mk.inj (Option.some.inj h)
      exact ⟨_, rfl, rfl⟩
    | _ => contradiction

theorem anyOp_eq_some {texts : List String} {text : String}
    (h : anyOp texts lexemes = some (text, rest)) :
    ∃ l, lexemes = l :: rest ∧ l.kind = .op text ∧ text ∈ texts := by
  cases lexemes with
  | nil => contradiction
  | cons l ls =>
    obtain ⟨kind, number⟩ := l
    cases kind with
    | op text' =>
      change (if texts.contains text' then (do skip; return text') else failure : LexemeParser String)
        (⟨.op text', number⟩ :: ls) = _ at h
      split at h
      · rename_i hmem
        obtain ⟨rfl, rfl⟩ := Prod.mk.inj (Option.some.inj h)
        exact ⟨_, rfl, rfl, by simpa using hmem⟩
      · contradiction
    | _ => contradiction

end Parsers

section Imports

/-- What may stand between `from` and `import`. -/
def IsPathKind (kind : LexemeKind) : Prop :=
  (∃ id, kind = .word id) ∨ kind = .op "." ∨ kind = .op "..."

variable {lexemes rest : List Lexeme} {stmt : Stmt}

theorem takes_word : Takes IsPathKind word := by
  intro lexemes id rest h
  obtain ⟨l, rfl, hl⟩ := word_eq_some h
  exact ⟨[l], rfl, by simp [IsPathKind, hl]⟩

theorem takes_op : Takes IsPathKind (op ".") := by
  intro lexemes u rest h
  obtain ⟨l, rfl, hl⟩ := expect_eq_some h
  exact ⟨[l], rfl, by simp [IsPathKind, hl]⟩

theorem takes_dots : Takes IsPathKind (anyOp [".", "..."]) := by
  intro lexemes text rest h
  obtain ⟨l, rfl, hl, hmem⟩ := anyOp_eq_some h
  refine ⟨[l], rfl, ?_⟩
  simp only [List.mem_cons, List.not_mem_nil, or_false] at hmem
  rcases hmem with rfl | rfl <;> simp [IsPathKind, hl]

theorem takes_dottedPath : Takes IsPathKind Statement.dottedPath :=
  takes_word.bind fun _ => (takes_many (takes_op.bind fun _ => takes_word)).bind fun _ => takes_pure _

/-- A plain import is the keyword and a name behind it. -/
theorem importStatement_eq_some (h : Statement.importStatement lexemes = some (stmt, rest)) :
    ∃ l l' id more, lexemes = l :: l' :: more ∧ l.kind = .keyword "import" ∧ l'.kind = .word id := by
  obtain ⟨_, _, hline, hbody⟩ := bind_eq_some h
  rw [line_eq_some hline] at hbody
  obtain ⟨_, _, hkeyword, hclauses⟩ := bind_eq_some hbody
  obtain ⟨l, rfl, hl⟩ := expect_eq_some hkeyword
  obtain ⟨_, _, hitems, -⟩ := bind_eq_some hclauses
  obtain ⟨_, _, hitem, -⟩ := bind_eq_some hitems
  obtain ⟨_, _, hpath, -⟩ := bind_eq_some hitem
  obtain ⟨id, more, hword, -⟩ := bind_eq_some hpath
  obtain ⟨l', rfl, hl'⟩ := word_eq_some hword
  exact ⟨l, l', id, more, rfl, hl, hl'⟩

/-- A `from` import is the keyword, points and names, and the keyword `import`. -/
theorem importFromStatement_eq_some (h : Statement.importFromStatement lexemes = some (stmt, rest)) :
    ∃ l path l' more, lexemes = l :: (path ++ l' :: more) ∧ l.kind = .keyword "from" ∧
      (∀ x ∈ path, IsPathKind x.kind) ∧ l'.kind = .keyword "import" := by
  obtain ⟨_, _, hline, hbody⟩ := bind_eq_some h
  rw [line_eq_some hline] at hbody
  obtain ⟨_, _, hkeyword, hsource⟩ := bind_eq_some hbody
  obtain ⟨l, rfl, hl⟩ := expect_eq_some hkeyword
  obtain ⟨_, _, hdots, hname⟩ := bind_eq_some hsource
  obtain ⟨dots, rfl, hdotted⟩ := takes_many takes_dots _ _ _ hdots
  obtain ⟨_, _, hpath, himport⟩ := bind_eq_some hname
  obtain ⟨path, rfl, hnamed⟩ := takes_optional takes_dottedPath _ _ _ hpath
  dsimp only at himport
  split at himport
  · obtain ⟨_, _, hfailure, -⟩ := bind_eq_some himport
    contradiction
  · obtain ⟨_, more, hkeyword, -⟩ := bind_eq_some himport
    obtain ⟨l', rfl, hl'⟩ := expect_eq_some hkeyword
    refine ⟨l, dots ++ path, l', more, by simp, hl, ?_, hl'⟩
    intro x hx
    exact (List.mem_append.mp hx).elim (hdotted x) (hnamed x)

end Imports

section Text

open Pruner.Text Pruner.Token

variable {t : Text} {kind : LexemeKind} {kinds : List LexemeKind}

/-- The first lexeme of a line stands behind blanks. -/
theorem Reads.exists_head (h : Reads t (kind :: kinds)) :
    ∃ gap piece rest, t = gap ++ (piece ++ rest) ∧ (∀ c ∈ gap, isBlank c = true) ∧ piece ≠ [] ∧
      Piece piece rest (some kind) ∧ Reads rest kinds := by
  generalize hall : kind :: kinds = all at h
  induction h with
  | nil => contradiction
  | @cons piece rest kind? kinds' ne_nil head tail ih =>
    cases kind? with
    | some kind' =>
      obtain ⟨rfl, rfl⟩ := List.cons.inj hall
      exact ⟨[], piece, rest, rfl, by simp, ne_nil, head, tail⟩
    | none =>
      obtain ⟨gap, piece', rest', hrest, hgap, hne, hpiece, htail⟩ := ih hall
      cases head with
      | @blank c _ inner =>
        refine ⟨c :: gap, piece', rest', by rw [hrest]; rfl, ?_, hne, hpiece, htail⟩
        exact List.forall_mem_cons.mpr ⟨isBlank_of_isInnerBlank inner, hgap⟩
      | comment =>
        -- Nothing follows a comment.
        have hnil := (List.append_eq_nil_iff.mp hrest.symm).2
        exact absurd (List.append_eq_nil_iff.mp hnil).1 hne

theorem Piece.keyword {piece rest : Text} {word : String} (h : Piece piece rest (some (.keyword word))) :
    piece = word.toList ∧ rest.head?.any isWordPart = false := by
  cases h with
  | word start part stop is_kind =>
    rcases wordKind?_cases is_kind with ⟨hword, -⟩ | ⟨⟨id, hword⟩, -⟩
    · refine ⟨?_, stop⟩
      rw [LexemeKind.keyword.inj hword, String.toList_ofList]
    · contradiction

/-- A line that starts visibly starts with its first lexeme. -/
theorem Reads.exists_keyword {word : String} (h : Reads t (.keyword word :: kinds))
    (hstart : ∀ c ∈ t.head?, isBlank c = false) :
    ∃ rest, t = word.toList ++ rest ∧ rest.head?.any isWordPart = false ∧ Reads rest kinds := by
  obtain ⟨gap, piece, rest, rfl, hgap, hne, hpiece, htail⟩ := h.exists_head
  obtain ⟨rfl, hstop⟩ := hpiece.keyword
  cases gap with
  | nil => exact ⟨rest, rfl, hstop, htail⟩
  | cons c cs =>
    have hblank := hgap c (by simp)
    rw [hstart c rfl] at hblank
    contradiction

/-- A word stands behind at least one blank if a word character would go on with what is before. -/
theorem Reads.exists_word {id : String} (h : Reads t (.word id :: kinds))
    (hstop : t.head?.any isWordPart = false) :
    ∃ c rest d, t = c :: rest ∧ isBlank c = true ∧ d ∈ rest ∧ isBlank d = false := by
  obtain ⟨gap, piece, rest, rfl, hgap, hne, hpiece, -⟩ := h.exists_head
  obtain ⟨d, ds, rfl⟩ := List.exists_cons_of_ne_nil hne
  cases hpiece with
  | word start part _ is_kind =>
    cases gap with
    | nil =>
      rw [List.nil_append, List.cons_append, List.head?_cons, Option.any_some,
        part d (by simp)] at hstop
      cases hstop
    | cons c cs =>
      exact ⟨c, cs ++ (d :: ds ++ rest), d, rfl, hgap c (by simp), by simp,
        isBlank_of_wordKind? part is_kind d (by simp)⟩

theorem any_isWord_of_any_isWordPart {u : Text} (h : u.head?.any isWordPart = false) :
    u.head?.any isWord = false := by
  cases u with
  | nil => rfl
  | cons c cs =>
    rw [List.head?_cons, Option.any_some] at h ⊢
    by_contra hword
    rw [isWordPart_of_isWord (by simpa using hword)] at h
    contradiction

theorem any_head?_append {p : Char → Bool} {a u : Text} (ha : a.head?.any p = false)
    (hu : u.head?.any p = false) : (a ++ u).head?.any p = false := by
  cases a with
  | nil => exact hu
  | cons c cs => exact ha

/-- After a point or a name, a word may start only where no word character goes on. -/
theorem Piece.endsInside {piece rest : Text} (h : Piece piece rest (some kind)) (hkind : IsPathKind kind)
    (hne : piece ≠ []) (inside : Bool) (gap : Text)
    (hends : endsInside inside (gap ++ piece) = true) : rest.head?.any isWordPart = false := by
  rw [endsInside_append hne] at hends
  cases h with
  | word start part stop is_kind => exact stop
  | string quoted => simp [IsPathKind] at hkind
  | number => simp [IsPathKind] at hkind
  | op =>
    have hpiece : piece = ['.'] ∨ piece = ['.', '.', '.'] := by
      rcases hkind with ⟨id, hid⟩ | hop | hop
      · contradiction
      · left
        rw [← String.toList_ofList (l := piece), LexemeKind.op.inj hop]
        rfl
      · right
        rw [← String.toList_ofList (l := piece), LexemeKind.op.inj hop]
        rfl
    rcases hpiece with rfl | rfl <;> exact absurd hends (by decide)

/-- The keyword `import` behind points and names is found as a word. -/
theorem Reads.cut_import {path : List LexemeKind} {u : Text} {inside : Bool}
    (h : Reads t (path ++ .keyword "import" :: kinds)) (hpath : ∀ k ∈ path, IsPathKind k)
    (hinside : inside = true → t.head?.any isWordPart = false)
    (hu : u.head?.any isWord = false) :
    (cutAtWord? Import.importWord inside (t ++ u)).isSome = true := by
  induction path generalizing t inside with
  | nil =>
    obtain ⟨gap, piece, rest, rfl, hgap, hne, hpiece, -⟩ := Reads.exists_head h
    obtain ⟨rfl, hstop⟩ := hpiece.keyword
    have hends : endsInside inside gap = false := by
      cases gap with
      | nil =>
        by_contra hends
        have hstart := hinside (by simpa [endsInside] using hends)
        revert hstart
        simp [isWordPart]
      | cons c cs =>
        rw [endsInside_cons, isWord_eq_false_of_isBlank (hgap c (by simp))]
        exact endsInside_blank fun d hd => hgap d (List.mem_cons_of_mem c hd)
    rw [List.append_assoc, List.append_assoc]
    apply cutAtWord?_append_isSome
    rw [hends]
    have hhere : cutAtWord? Import.importWord false (Import.importWord ++ (rest ++ u)) =
        some ([], rest ++ u) :=
      cutAtWord?_here (by decide) (any_head?_append (any_isWord_of_any_isWordPart hstop) hu)
    exact Option.isSome_of_eq_some hhere
  | cons k path ih =>
    obtain ⟨gap, piece, rest, rfl, hgap, hne, hpiece, htail⟩ := Reads.exists_head h
    have hk := hpath k (by simp)
    rw [← List.append_assoc, List.append_assoc]
    apply cutAtWord?_append_isSome
    exact ih htail (fun k' hk' => hpath k' (List.mem_cons_of_mem k hk'))
      (hpiece.endsInside hk hne inside gap)

end Text

end Pruner.Syntax

namespace Pruner.Import

open Pruner.Text Pruner.Syntax

/-- A complete import statement on a line of its own. -/
structure ParsedImport where
  indent : Text
  body : Text
  ending : Text
  margin : ∀ c ∈ indent, isBlank c = true
  starts : ∃ c ∈ body.head?, isBlank c = false ∧ c ≠ '#'
  one_line : IsOneLine body ending
  lexemes : List Lexeme
  stmt : Stmt
  lexes : lex? 1 (body ++ ending) = some lexemes
  parses : Statement.importStatement lexemes = some (stmt, lineEnd) ∨
    Statement.importFromStatement lexemes = some (stmt, lineEnd)

namespace ParsedImport

variable (l : ParsedImport)

def line : Text :=
  l.indent ++ (l.body ++ l.ending)

theorem head_ending : l.ending.head?.any isWord = false := by
  have hends := l.one_line.ends
  simp only [lineEnds, List.mem_cons, List.not_mem_nil, or_false] at hends
  rcases hends with hends | hends | hends | hends <;> rw [hends] <;> decide

theorem body_head : ∀ c ∈ l.body.head?, isBlank c = false := by
  obtain ⟨c, hc, hblank, -⟩ := l.starts
  intro d hd
  obtain rfl : c = d := Option.some.inj (hc.symm.trans hd)
  exact hblank

/-- The line opens with a word at the start of its text. -/
theorem opensWith_of_body {word rest : Text} (hne : word ≠ []) (h : l.body = word ++ rest)
    (hrest : rest.head?.any isWordPart = false) : OpensWith word l.line := by
  have hbody := l.body_head
  have htrim : trimLeft l.line = word ++ (rest ++ l.ending) := by
    obtain ⟨c, cs, rfl⟩ := List.exists_cons_of_ne_nil hne
    rw [line, trimLeft_append_of_blank l.margin, h, List.append_assoc]
    exact trimLeft_eq_self (by simpa [h] using hbody)
  rw [OpensWith, htrim]
  exact startsWord_iff.mpr ⟨rfl, _, rfl,
    any_head?_append (any_isWord_of_any_isWordPart hrest) l.head_ending⟩

/-- What the grammar takes off the lexemes stands on the line, unless it is the end of the line. -/
theorem exists_kinds {before after : List Lexeme} {x : Lexeme}
    (h : l.lexemes = before ++ x :: after) (hx : x.kind ∉ [.newline, .finish]) :
    ∃ kinds, Reads l.body (before.map Lexeme.kind ++ x.kind :: kinds) := by
  obtain ⟨kinds, hreads, hlexemes⟩ := reads_of_lex? l.one_line l.starts l.lexes
  have hkinds : kinds ++ [.newline, .finish] =
      before.map Lexeme.kind ++ x.kind :: after.map Lexeme.kind := by
    have hmap := congrArg (List.map Lexeme.kind) (hlexemes.symm.trans h)
    simpa [lineEnd, Function.comp_def] using hmap
  rcases List.append_eq_append_iff.mp hkinds with ⟨extra, -, hend⟩ | ⟨extra, rfl, hend⟩
  · exact absurd (by rw [hend]; simp) hx
  · cases extra with
    | nil => exact absurd (by rw [← List.nil_append [LexemeKind.newline, _], ← hend]; simp) hx
    | cons k kinds =>
      obtain ⟨rfl, -⟩ := List.cons.inj hend
      exact ⟨kinds, hreads⟩

/-- An import statement opens with `import` and has another word, or opens with `from` and has the
word `import` further on. -/
theorem opens : (OpensWith importWord l.line ∧
      ∃ first second rest, words l.line = first :: second :: rest) ∨
    (OpensWith fromWord l.line ∧ (cutAtWord? importWord false l.line).isSome = true) := by
  rcases l.parses with hparse | hparse
  · left
    obtain ⟨x, y, id, more, hsplit, hx, hy⟩ := importStatement_eq_some hparse
    obtain ⟨kinds, hreads⟩ := l.exists_kinds
      (show l.lexemes = [x] ++ y :: more from hsplit) (by simp [hy])
    rw [List.map_singleton, List.singleton_append, hx, hy] at hreads
    obtain ⟨rest, hbody, hstop, hrest⟩ := hreads.exists_keyword l.body_head
    obtain ⟨c, after, d, rfl, hc, hd, hvisible⟩ := hrest.exists_word hstop
    refine ⟨l.opensWith_of_body (by decide) hbody hstop, ?_⟩
    have hwords : words l.line = words (l.indent ++ "import".toList) ++ words (after ++ l.ending) := by
      rw [← words_append_blank hc, line, hbody]
      simp
    obtain ⟨first, others, hfirst⟩ := List.exists_cons_of_ne_nil
      (words_ne_nil (t := l.indent ++ "import".toList) (c := 'i') (by simp) (by decide))
    obtain ⟨second, last, hsecond⟩ := List.exists_cons_of_ne_nil
      (words_ne_nil (List.mem_append_left l.ending hd) hvisible)
    rw [hwords, hfirst, hsecond]
    cases others with
    | nil => exact ⟨first, second, last, rfl⟩
    | cons other others => exact ⟨first, other, others ++ second :: last, rfl⟩
  · right
    obtain ⟨x, path, y, more, hsplit, hx, hpath, hy⟩ := importFromStatement_eq_some hparse
    obtain ⟨kinds, hreads⟩ := l.exists_kinds
      (show l.lexemes = (x :: path) ++ y :: more from hsplit) (by simp [hy])
    rw [List.map_cons, List.cons_append, hx, hy] at hreads
    obtain ⟨rest, hbody, hstop, hrest⟩ := hreads.exists_keyword l.body_head
    refine ⟨l.opensWith_of_body (by decide) hbody hstop, ?_⟩
    have hkinds : ∀ k ∈ path.map Lexeme.kind, IsPathKind k := by
      intro k hk
      obtain ⟨z, hz, rfl⟩ := List.mem_map.mp hk
      exact hpath z hz
    have hline : l.line = (l.indent ++ "from".toList) ++ (rest ++ l.ending) := by
      rw [line, hbody]
      simp
    rw [hline]
    apply cutAtWord?_append_isSome
    exact hrest.cut_import hkinds (fun _ => hstop) l.head_ending

end ParsedImport

end Pruner.Import
