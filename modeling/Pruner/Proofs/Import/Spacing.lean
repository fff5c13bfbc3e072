import Pruner.Proofs.Rule.Packages
import Pruner.Proofs.Text.Identifier

namespace Pruner.Text

/-- What is appended without a comma goes to the last of the parts. -/
theorem commaPieces_join_append {parts : List Text} (hne : parts ≠ []) (h : ∀ x ∈ parts, ',' ∉ x)
    {e : Text} (he : ',' ∉ e) :
    commaPieces (join [','] parts ++ e) = parts.dropLast ++ [parts.getLastD [] ++ e] := by
  induction parts with
  | nil => exact absurd rfl hne
  | cons x rest ih =>
    have hx : ',' ∉ x := h x (by simp)
    cases rest with
    | nil =>
      have hall : ',' ∉ x ++ e := by simp [hx, he]
      exact commaPieces_of_not_mem hall
    | cons y ys =>
      have hrest := ih (by simp) fun z hz => h z (List.mem_cons_of_mem x hz)
      have hsplit : join [','] (x :: y :: ys) ++ e = x ++ ',' :: (join [','] (y :: ys) ++ e) := by
        simp [join]
      rw [hsplit, commaPieces_comma hx, hrest]
      rfl

/-- A word that begins in a text stands in it, unless it could go on behind it. -/
theorem startsWord_of_append {word u : Text} {inside : Bool} {c : Char} {cs : Text}
    (hword : ∀ d ∈ word, isWord d = true)
    (hbreak : u.head?.any isWord = false ∨ (c :: cs).getLast?.any isWord = false)
    (h : startsWord word inside (c :: (cs ++ u)) = true) :
    startsWord word inside (c :: cs) = true := by
  obtain ⟨hin, after, hsplit, hafter⟩ := startsWord_iff.mp h
  rw [← List.cons_append] at hsplit
  rw [startsWord_iff]
  rcases List.append_eq_append_iff.mp hsplit with ⟨more, hmore, hu⟩ | ⟨more, hmore, hu⟩
  · -- The word ends behind the text, or with it.
    cases more with
    | nil => exact ⟨hin, [], by simpa using hmore.symm, rfl⟩
    | cons d more =>
      rcases hbreak with hbreak | hbreak
      · have hd := hword d (by simp [hmore])
        rw [hu, List.cons_append, List.head?_cons, Option.any_some, hd] at hbreak
        contradiction
      · have hlast := List.getLast_mem (List.cons_ne_nil c cs)
        have hd := hword _ (by rw [hmore]; exact List.mem_append_left _ hlast)
        rw [List.getLast?_eq_getLast_of_ne_nil (List.cons_ne_nil c cs), Option.any_some,
          hd] at hbreak
        contradiction
  · -- The word ends inside of the text.
    refine ⟨hin, more, hmore, ?_⟩
    cases more with
    | nil => rfl
    | cons d more => rwa [hu] at hafter

/-- A text in which the word is not found is passed over, unless the word could begin in it and end
behind it. -/
theorem cutAtWord?_append_of_none {word s u : Text} {inside : Bool}
    (hword : ∀ d ∈ word, isWord d = true) (h : cutAtWord? word inside s = none)
    (hbreak : u.head?.any isWord = false ∨ s.getLast?.any isWord = false) :
    cutAtWord? word inside (s ++ u) =
      (cutAtWord? word ((s.getLast?.map isWord).getD inside) u).map fun (before, after) =>
        (s ++ before, after) := by
  induction s generalizing inside with
  | nil => exact (Option.map_id' (x := cutAtWord? word inside u)).symm
  | cons c cs ih =>
    rw [cutAtWord?_cons] at h
    split at h
    · simp at h
    · rename_i hnot
      rw [Option.map_eq_none_iff] at h
      have hnot' : ¬startsWord word inside (c :: (cs ++ u)) = true :=
        fun hstarts => hnot (startsWord_of_append hword hbreak hstarts)
      have hcs : u.head?.any isWord = false ∨ cs.getLast?.any isWord = false := by
        cases cs with
        | nil => exact Or.inr rfl
        | cons d ds => exact hbreak
      have hlast : (cs.getLast?.map isWord).getD (isWord c) =
          ((c :: cs).getLast?.map isWord).getD inside := by
        cases cs with
        | nil => rfl
        | cons d ds =>
          rw [List.getLast?_cons_cons, List.getLast?_eq_getLast_of_ne_nil (List.cons_ne_nil d ds)]
          rfl
      rw [List.cons_append, cutAtWord?_cons, if_neg hnot', ih h hcs, Option.map_map, hlast]
      rfl

end Pruner.Text

namespace Pruner.Import

open Pruner.Text Pruner.Line

/-- Blanks inside of a line. -/
def isMargin (t : Text) : Bool :=
  t.all fun c => isBlank c && c != '\n'

/-- Characters that no clause has: a clause or a line ends at them, or they make a line more than
an import. -/
def barredChars : Text := ",\n\\();#".toList

/-- A clause on one line: something visible, and nothing barred. -/
def isInlineClause (x : Text) : Bool :=
  x.any (!isBlank ·) && x.all (!barredChars.contains ·)

/-- What stands after the word `import`: clauses with commas between them, and blanks of which the
last may be a line feed. -/
structure ClauseList where
  clauses : List Text
  close : Text
  ne_nil : clauses ≠ []
  inline : clauses.all isInlineClause = true
  word_ends : (join [','] clauses).head?.any isWord = false
  close_blank : close.all isBlank = true
  close_last : '\n' ∉ close.dropLast

namespace ClauseList

variable (l : ClauseList)

def text : Text :=
  join [','] l.clauses ++ l.close

/-- The texts between the commas; the last one has the blanks that close the line. -/
def pieces : List Text :=
  l.clauses.dropLast ++ [l.clauses.getLastD [] ++ l.close]

/-- The clauses without the blanks around them. -/
def bare : List Text :=
  l.clauses.map trim

variable {l}

theorem not_mem_clause {x : Text} (hx : x ∈ l.clauses) {c : Char} (hc : c ∈ barredChars) :
    c ∉ x := by
  intro hmem
  have hinline := List.all_eq_true.mp l.inline x hx
  rw [isInlineClause, Bool.and_eq_true] at hinline
  have hnot := List.all_eq_true.mp hinline.2 c hmem
  rw [Bool.not_eq_true', List.contains_eq_mem, decide_eq_false_iff_not] at hnot
  exact hnot hc

theorem trim_ne_nil {x : Text} (hx : x ∈ l.clauses) : trim x ≠ [] := by
  have hinline := List.all_eq_true.mp l.inline x hx
  rw [isInlineClause, Bool.and_eq_true, List.any_eq_true] at hinline
  obtain ⟨⟨c, hc, hvisible⟩, -⟩ := hinline
  intro hnil
  rw [trim_eq_nil_iff.mp hnil c hc] at hvisible
  contradiction

theorem isBlank_of_mem_close {c : Char} (hc : c ∈ l.close) : isBlank c = true :=
  List.all_eq_true.mp l.close_blank c hc

theorem isClause_of_mem_bare {x : Text} (hx : x ∈ l.bare) : IsClause x := by
  obtain ⟨y, hy, rfl⟩ := List.mem_map.mp hx
  refine ⟨trim_ne_nil hy, trim_solid y, fun hmem => ?_⟩
  exact not_mem_clause hy (by decide) (mem_of_mem_trim hmem)

variable (l)

/-- A barred character other than the comma and the line feed is nowhere. -/
theorem not_mem_text {c : Char} (hc : c ∈ barredChars) (hcomma : c ≠ ',')
    (hblank : isBlank c = false) : c ∉ l.text := by
  rw [text, List.mem_append, not_or]
  refine ⟨fun hmem => ?_, fun hmem => ?_⟩
  · rcases mem_of_mem_join hmem with hsep | ⟨x, hx, hmem⟩
    · exact hcomma (List.mem_singleton.mp hsep)
    · exact not_mem_clause hx hc hmem
  · rw [isBlank_of_mem_close hmem] at hblank
    contradiction

theorem newline_not_mem_join : '\n' ∉ join [','] l.clauses := by
  intro hmem
  rcases mem_of_mem_join hmem with hsep | ⟨x, hx, hmem⟩
  · simp at hsep
  · exact not_mem_clause hx (by decide) hmem

theorem newline_last : '\n' ∉ l.text.dropLast := by
  rw [text]
  by_cases hclose : l.close = []
  · rw [hclose, List.append_nil]
    exact fun hmem => l.newline_not_mem_join (List.dropLast_subset _ hmem)
  · rw [List.dropLast_append_of_ne_nil hclose, List.mem_append, not_or]
    exact ⟨l.newline_not_mem_join, l.close_last⟩

theorem commaPieces_text : commaPieces l.text = l.pieces :=
  commaPieces_join_append l.ne_nil (fun _ hx => not_mem_clause hx (by decide))
    (not_mem_of_blank (fun _ => isBlank_of_mem_close) (by decide))

theorem map_trim_pieces : l.pieces.map trim = l.bare := by
  have hlast : l.clauses.dropLast ++ [l.clauses.getLastD []] = l.clauses := by
    rw [List.getLastD_eq_getLast?, List.getLast?_eq_getLast_of_ne_nil l.ne_nil]
    exact List.dropLast_append_getLast l.ne_nil
  rw [pieces, List.map_append, List.map_singleton, trim_append_right fun _ => isBlank_of_mem_close,
    ← List.map_singleton, ← List.map_append, hlast]
  rfl

theorem length_pieces : l.pieces.length = l.clauses.length := by
  have hlength := congrArg List.length l.map_trim_pieces
  rwa [List.length_map, bare, List.length_map] at hlength

theorem join_clauses_ne_nil : join [','] l.clauses ≠ [] := by
  refine join_ne_nil l.ne_nil (fun x hx => ?_) _
  rintro rfl
  exact trim_ne_nil hx rfl

theorem text_ne_nil : l.text ≠ [] := by
  simp [text, l.join_clauses_ne_nil]

theorem head_text : l.text.head?.any isWord = false := by
  rw [text, List.head?_append_of_ne_nil _ l.join_clauses_ne_nil]
  exact l.word_ends

end ClauseList

/-- An import of modules on one line. -/
structure ModuleLine extends ClauseList where
  indent : Text
  indent_margin : isMargin indent = true

theorem isMargin_nil : isMargin [] = true := rfl

theorem isMargin_space : isMargin [' '] = true := by decide

theorem all_isBlank_newline : ['\n'].all isBlank = true := by decide

theorem not_mem_dropLast_newline : '\n' ∉ ['\n'].dropLast := by decide

theorem isBlank_of_isMargin {t : Text} (h : isMargin t = true) {c : Char} (hc : c ∈ t) :
    isBlank c = true :=
  (Bool.and_eq_true_iff.mp (List.all_eq_true.mp h c hc)).1

theorem newline_not_mem_of_isMargin {t : Text} (h : isMargin t = true) : '\n' ∉ t := by
  intro hmem
  have hnewline := List.all_eq_true.mp h '\n' hmem
  simp at hnewline

namespace ModuleLine

variable (l : ModuleLine)

def line : Text :=
  l.indent ++ importWord ++ l.text

theorem isBlank_indent : ∀ c ∈ l.indent, isBlank c = true :=
  fun _ => isBlank_of_isMargin l.indent_margin

/-- The clauses in the order in which they get lines of their own. -/
theorem perm_bare : ((sort l.pieces).map trim).Perm l.bare := by
  rw [← l.map_trim_pieces]
  exact (sort_perm l.pieces).map trim

theorem opensWith : OpensWith importWord l.line :=
  opensWith_append l.isBlank_indent (by decide) (fun _ => isBlank_eq_false_of_all (by decide))
    l.head_text

theorem cut : cutAtWord? importWord false l.line = some (l.indent, l.text) :=
  cutAtWord?_blank_append l.isBlank_indent isBlank_head_importWord (by decide) l.head_text

theorem isLine : IsLine l.line := by
  have hword : '\n' ∉ importWord := by decide
  have hmargin := newline_not_mem_of_isMargin l.indent_margin
  refine ⟨by simp [line, l.text_ne_nil], ?_⟩
  rw [line, List.dropLast_append_of_ne_nil l.text_ne_nil, List.mem_append, List.mem_append, not_or,
    not_or]
  exact ⟨⟨hmargin, hword⟩, l.newline_last⟩

theorem not_mem_line {c : Char} (hc : c ∈ barredChars) (hcomma : c ≠ ',')
    (hblank : isBlank c = false) (hword : c ∉ importWord) : c ∉ l.line := by
  rw [line, List.mem_append, List.mem_append, not_or, not_or]
  exact ⟨⟨not_mem_of_blank l.isBlank_indent hblank, hword⟩, l.not_mem_text hc hcomma hblank⟩

/-- The clauses are put on lines of their own, unless the line ends with a visible character. -/
theorem breakUp_line : breakUp l.line =
    .ok (if ending l.line = [] then l.line else (ownLines l.line l.indent l.text).flatten) := by
  have hnot {c : Char} (hc : c ∈ barredChars) (hcomma : c ≠ ',') (hblank : isBlank c = false)
      (hword : c ∉ importWord) : l.line.contains c = false := by
    rw [List.contains_eq_mem, decide_eq_false_iff_not]
    exact l.not_mem_line hc hcomma hblank hword
  rw [breakUp, hasForbidden, hnot (c := '\\') (by decide) (by decide) (by decide) (by decide),
    hnot (c := '(') (by decide) (by decide) (by decide) (by decide),
    hnot (c := ')') (by decide) (by decide) (by decide) (by decide),
    hnot (c := ';') (by decide) (by decide) (by decide) (by decide),
    hnot (c := '#') (by decide) (by decide) (by decide) (by decide), l.opensWith.not_isFrom, l.cut,
    ownLines, ← List.flatMap_def]
  by_cases hending : ending l.line = []
  · simp [hending]
  · simp [hending]

end ModuleLine

/-- A module that names are imported from: points for the packages around, and a path. -/
structure SourceModule where
  points : Nat
  path : List Text
  some_part : points ≠ 0 ∨ path ≠ []
  identifiers : ∀ name ∈ path, IsIdentifier name

theorem isIdentifier_m : IsIdentifier ['m'] :=
  isIdentifier_singleton (by decide)

namespace SourceModule

/-- A module of one name. -/
def single (name : Text) (h : IsIdentifier name) : SourceModule where
  points := 0
  path := [name]
  some_part := Or.inr (List.cons_ne_nil name [])
  identifiers := by
    intro part hpart
    rwa [List.mem_singleton.mp hpart]

variable (m : SourceModule)

def text : Text :=
  List.replicate m.points '.' ++ join ['.'] m.path

theorem isBlank_text {c : Char} (hc : c ∈ m.text) : isBlank c = false := by
  rw [text, List.mem_append] at hc
  rcases hc with hc | hc
  · rw [List.eq_of_mem_replicate hc]
    decide
  · rcases mem_of_mem_join hc with hpoint | ⟨name, hname, hc⟩
    · rw [List.mem_singleton.mp hpoint]
      decide
    · exact isBlank_of_isIdentifierPart ((m.identifiers name hname).part c hc)

theorem text_ne_nil : m.text ≠ [] := by
  intro hnil
  obtain ⟨hpoints, hpath⟩ := List.append_eq_nil_iff.mp hnil
  rcases m.some_part with hsome | hsome
  · simp [hsome] at hpoints
  · exact join_ne_nil hsome (fun name hname => (m.identifiers name hname).ne_nil) _ hpath

theorem space_not_mem_text : ' ' ∉ m.text := by
  intro hmem
  have hspace := m.isBlank_text hmem
  revert hspace
  decide

end SourceModule

/-- Blanks in front do not hide the module. -/
theorem baseModule?_blanks {a : Text} (ha : ∀ c ∈ a, isBlank c = true) (t : Text) :
    baseModule? false (a ++ t) = baseModule? false t := by
  induction a with
  | nil => rfl
  | cons c cs ih =>
    have hc : isBlank c = true := ha c (by simp)
    have hnot : startsWith fromWord (c :: (cs ++ t)) = false := by
      have hne : 'f' ≠ c := by
        rintro rfl
        revert hc
        decide
      simp [startsWith, fromWord, List.isPrefixOf, hne]
    have hnone : moduleAfterFrom? (c :: (cs ++ t)) = none := by
      rw [moduleAfterFrom?, hnot]
      rfl
    rw [List.cons_append, baseModule?, if_neg Bool.false_ne_true, hnone]
    dsimp only
    rw [isWord_eq_false_of_isBlank hc]
    exact ih fun d hd => ha d (List.mem_cons_of_mem c hd)

/-- Behind `from` and all of the blanks after it a module is read up to the next space. -/
theorem moduleAfterFrom?_blanks {lead t : Text} (hlead : ∀ c ∈ lead, isBlank c = true)
    (hne : lead ≠ []) {c : Char} (hhead : t.head? = some c) (hc : isBlank c = false) :
    moduleAfterFrom? (fromWord ++ (lead ++ t)) = some (t.takeWhile (· != ' ')) := by
  obtain ⟨cs, rfl⟩ := List.head?_eq_some_iff.mp hhead
  have hspace : c ≠ ' ' := by
    rintro rfl
    revert hc
    decide
  have hrun : (lead ++ c :: cs).takeWhile isBlank = lead := by
    rw [List.takeWhile_append_of_pos hlead, List.takeWhile_cons, hc]
    simp
  obtain ⟨n, hn⟩ : ∃ n, lead.length = n + 1 := by
    have hpos := List.length_pos_of_ne_nil hne
    exact ⟨lead.length - 1, by omega⟩
  rw [moduleAfterFrom?, if_pos (by simp [startsWith]), List.drop_left]
  dsimp only
  -- The first place that is tried is the one behind all of the blanks.
  rw [hrun, hn, List.range_succ, List.reverse_append, List.reverse_singleton, List.singleton_append,
    List.map_cons, ← hn, List.find?_cons_of_pos (by simp [hspace]), Option.map_some, List.drop_left]

theorem baseModule?_from {lead t : Text} (hlead : ∀ c ∈ lead, isBlank c = true) (hne : lead ≠ [])
    {c : Char} (hhead : t.head? = some c) (hc : isBlank c = false) :
    baseModule? false (fromWord ++ (lead ++ t)) = some (t.takeWhile (· != ' ')) := by
  have hmodule := moduleAfterFrom?_blanks hlead hne hhead hc
  have hcons : fromWord ++ (lead ++ t) = 'f' :: ("rom".toList ++ (lead ++ t)) := rfl
  rw [hcons] at hmodule ⊢
  rw [baseModule?, if_neg Bool.false_ne_true, hmodule]

/-- A module is only read behind `from` and a blank. -/
theorem exists_of_moduleAfterFrom? {t m : Text} (h : moduleAfterFrom? t = some m) :
    ∃ d rest, t = fromWord ++ d :: rest ∧ isBlank d = true := by
  rw [moduleAfterFrom?] at h
  split at h
  · rename_i hstarts
    obtain ⟨rest, rfl⟩ := List.isPrefixOf_iff_prefix.mp hstarts
    rw [List.drop_left] at h
    cases rest with
    | nil => simp at h
    | cons d rest =>
      refine ⟨d, rest, rfl, ?_⟩
      by_contra hd
      simp [hd] at h
  · simp at h

theorem baseModule?_of_blank {u : Text} (hu : ∀ c ∈ u, isBlank c = true) (inside : Bool) :
    baseModule? inside u = none := by
  have hfalse {v : Text} (hv : ∀ c ∈ v, isBlank c = true) : baseModule? false v = none := by
    have h := baseModule?_blanks hv []
    rw [List.append_nil] at h
    exact h
  cases u with
  | nil => rfl
  | cons c cs =>
    cases inside with
    | false => exact hfalse hu
    | true =>
      rw [baseModule?, isWord_eq_false_of_isBlank (hu c (by simp))]
      exact hfalse fun d hd => hu d (List.mem_cons_of_mem c hd)

/-- Without the word `from` no module is found, whatever blanks follow. -/
theorem baseModule?_eq_none {s u : Text} {inside : Bool} (h : cutAtWord? fromWord inside s = none)
    (hu : ∀ c ∈ u, isBlank c = true) : baseModule? inside (s ++ u) = none := by
  induction s generalizing inside with
  | nil => exact baseModule?_of_blank hu inside
  | cons c cs ih =>
    rw [cutAtWord?_cons] at h
    split at h
    · simp at h
    · rename_i hnot
      rw [Option.map_eq_none_iff] at h
      have hhere : (if inside then none else moduleAfterFrom? (c :: (cs ++ u))) = none := by
        rw [Option.eq_none_iff_forall_ne_some]
        intro m hm
        split at hm
        · simp at hm
        · rename_i hinside
          apply hnot
          obtain ⟨d, rest, hsplit, hd⟩ := exists_of_moduleAfterFrom? hm
          rw [← List.cons_append] at hsplit
          refine startsWord_iff.mpr ⟨by simpa using hinside, ?_⟩
          rcases List.append_eq_append_iff.mp hsplit with ⟨more, hmore, hblanks⟩ | ⟨more, hmore, hrest⟩
          · -- The word does not reach into the blanks.
            have hnil : more = [] := by
              rw [List.eq_nil_iff_forall_not_mem]
              intro e he
              have hvisible : isBlank e = false :=
                isBlank_eq_false_of_all (t := fromWord) (by decide) (by simp [hmore, he])
              rw [hu e (by simp [hblanks, he])] at hvisible
              contradiction
            rw [hnil, List.append_nil] at hmore
            exact ⟨[], by rw [hmore, List.append_nil], rfl⟩
          · refine ⟨more, hmore, ?_⟩
            cases more with
            | nil => rfl
            | cons e more =>
              obtain ⟨rfl, -⟩ := List.cons.inj hrest
              exact isWord_eq_false_of_isBlank hd
      rw [List.cons_append, baseModule?, hhere]
      exact ih h

/-- The names that are kept are the clauses that are not reported, as long as the module and a point
are not found in them. -/
theorem keptNames_eq_filter {base after : Text} {clauses : List Text}
    (hclauses : (commaPieces (trim after)).map trim = clauses)
    (herase : ∀ x ∈ clauses, Text.erase (base ++ ['.']) x = x) (unused : List Text) :
    keptNames base after unused =
      clauses.filter fun x => !unused.contains (base ++ ['.'] ++ x) := by
  calc keptNames base after unused
      = (((commaPieces (trim after)).map trim).filter fun x =>
          !unused.contains (base ++ ['.'] ++ x)).map (Text.erase (base ++ ['.'])) := by
        rw [List.filter_map, List.map_map]
        rfl
    _ = (clauses.filter fun x => !unused.contains (base ++ ['.'] ++ x)).map id := by
        rw [hclauses]
        exact List.map_congr_left fun x hx => herase x (List.mem_filter.mp hx).1
    _ = clauses.filter fun x => !unused.contains (base ++ ['.'] ++ x) := List.map_id _

/-- An import of names on one line. -/
structure NamesLine extends ClauseList where
  indent : Text
  /-- The blanks after `from`. -/
  lead : Text
  source : SourceModule
  /-- The blanks before `import`. -/
  gap : Text
  indent_margin : isMargin indent = true
  lead_margin : isMargin lead = true
  source_begins : lead ≠ [] ∨ source.points ≠ 0
  gap_margin : isMargin gap = true
  source_ends : gap ≠ [] ∨ source.text.getLast? = some '.'

namespace NamesLine

variable (l : NamesLine)

def before : Text :=
  l.indent ++ (fromWord ++ (l.lead ++ (l.source.text ++ l.gap)))

def line : Text :=
  l.before ++ importWord ++ l.text

/-- The module as the rule reads it: up to the next space, with other blanks before that. -/
def base : Text :=
  l.source.text ++ l.gap.takeWhile (· != ' ')

theorem isBlank_indent : ∀ c ∈ l.indent, isBlank c = true :=
  fun _ => isBlank_of_isMargin l.indent_margin

theorem isBlank_lead : ∀ c ∈ l.lead, isBlank c = true :=
  fun _ => isBlank_of_isMargin l.lead_margin

theorem isBlank_gap : ∀ c ∈ l.gap, isBlank c = true :=
  fun _ => isBlank_of_isMargin l.gap_margin

/-- Behind the module come blanks, or its last point and the word itself. -/
theorem cut_gap : cutAtWord? importWord (l.source.text.getLast?.any isWord)
    (l.gap ++ (importWord ++ l.text)) = some (l.gap, l.text) := by
  have hhere : cutAtWord? importWord false (importWord ++ l.text) = some ([], l.text) :=
    cutAtWord?_here (by decide) l.head_text
  have hgap := l.isBlank_gap
  cases hcases : l.gap with
  | nil =>
    have hpoint := l.source_ends.resolve_left (not_not_intro hcases)
    have hword : isWord '.' = false := by decide
    rw [hpoint, Option.any_some, hword]
    exact hhere
  | cons c cs =>
    rw [hcases] at hgap
    have hc : isBlank c = true := hgap c (by simp)
    have hfirst : importWord.head? ≠ some c := by
      intro hsome
      simp [isBlank_head_importWord c hsome] at hc
    have hcs : ∀ d ∈ cs, isBlank d = true := fun d hd => hgap d (List.mem_cons_of_mem c hd)
    rw [List.cons_append, cutAtWord?_skip hfirst (by decide) (isWord_eq_false_of_isBlank hc),
      cutAtWord?_blanks hcs isBlank_head_importWord (by decide), hhere]
    simp

/-- A line with one space between its words. -/
def spaced (source : SourceModule) (clauses : List Text) (ne_nil : clauses ≠ [])
    (inline : clauses.all isInlineClause = true)
    (word_ends : (join [','] clauses).head?.any isWord = false) : NamesLine where
  clauses := clauses
  close := ['\n']
  ne_nil := ne_nil
  inline := inline
  word_ends := word_ends
  close_blank := all_isBlank_newline
  close_last := not_mem_dropLast_newline
  indent := []
  lead := [' ']
  source := source
  gap := [' ']
  indent_margin := isMargin_nil
  lead_margin := isMargin_space
  source_begins := Or.inl (by decide)
  gap_margin := isMargin_space
  source_ends := Or.inl (by decide)

/-- What follows `from` begins with a blank or a point. -/
theorem exists_lead : ∃ c t, l.lead ++ l.source.text = c :: t ∧ isWord c = false := by
  rcases l.source_begins with hlead | hpoints
  · obtain ⟨c, lead, hcons⟩ := List.exists_cons_of_ne_nil hlead
    refine ⟨c, lead ++ l.source.text, by rw [hcons, List.cons_append], ?_⟩
    exact isWord_eq_false_of_isBlank (l.isBlank_lead c (by simp [hcons]))
  · cases hlead : l.lead with
    | nil =>
      obtain ⟨n, hn⟩ := Nat.exists_eq_succ_of_ne_zero hpoints
      refine ⟨'.', List.replicate n '.' ++ join ['.'] l.source.path, ?_, by decide⟩
      rw [SourceModule.text, hn, List.replicate_succ]
      rfl
    | cons c lead =>
      refine ⟨c, lead ++ l.source.text, List.cons_append, ?_⟩
      exact isWord_eq_false_of_isBlank (l.isBlank_lead c (by simp [hlead]))

/-- A line is cut at its own `import`, if the module does not hold that word. -/
theorem cut (hword : hasWord importWord l.source.text = false) :
    cutAtWord? importWord false l.line = some (l.before, l.text) := by
  obtain ⟨c, t, hcons, hc⟩ := l.exists_lead
  have hnone : cutAtWord? importWord false t = none := by
    have hsource : cutAtWord? importWord false l.source.text = none := by
      simpa [hasWord] using hword
    have hfirst : importWord.head? ≠ some c := by
      intro hsome
      simp [importWord_isWord c (List.mem_of_head? hsome)] at hc
    have hall := cutAtWord?_blanks l.isBlank_lead isBlank_head_importWord (by decide) l.source.text
    rw [hcons, hsource, cutAtWord?_skip hfirst (by decide) hc] at hall
    simpa using hall
  have hlast : t.getLast?.any isWord = l.source.text.getLast?.any isWord := by
    rw [← List.getLast?_append_of_ne_nil l.lead l.source.text_ne_nil, hcons]
    cases t with
    | nil => simp [hc]
    | cons d ds => rfl
  have hbreak : (l.gap ++ (importWord ++ l.text)).head?.any isWord = false ∨
      t.getLast?.any isWord = false := by
    rcases l.source_ends with hne | hpoint
    · obtain ⟨d, ds, hgap⟩ := List.exists_cons_of_ne_nil hne
      have hd : isBlank d = true := l.isBlank_gap d (by simp [hgap])
      exact Or.inl (by simp [hgap, isWord_eq_false_of_isBlank hd])
    · refine Or.inr ?_
      rw [hlast, hpoint]
      decide
  have hinside : (t.getLast?.map isWord).getD false = l.source.text.getLast?.any isWord := by
    rw [← hlast]
    cases t.getLast? <;> rfl
  have hline : l.line = l.indent ++ (fromWord ++ (l.lead ++ l.source.text ++
      (l.gap ++ (importWord ++ l.text)))) := by
    simp [line, before]
  have hbefore : l.before = l.indent ++ (fromWord ++ (l.lead ++ l.source.text ++ l.gap)) := by
    simp [before]
  rw [hline, hbefore, hcons, cutAtWord?_blanks l.isBlank_indent isBlank_head_importWord (by decide),
    List.cons_append, cutAtWord?_from hc, cutAtWord?_append_of_none importWord_isWord hnone hbreak,
    hinside, l.cut_gap]
  simp

theorem baseModule?_before (hlead : l.lead ≠ []) : baseModule? false l.before = some l.base := by
  obtain ⟨c, cs, htext⟩ := List.exists_cons_of_ne_nil l.source.text_ne_nil
  have hc : isBlank c = false := l.source.isBlank_text (by simp [htext])
  have hhead : (l.source.text ++ l.gap).head? = some c := by simp [htext]
  have hbase : (l.source.text ++ l.gap).takeWhile (· != ' ') = l.base := by
    refine List.takeWhile_append_of_pos fun d hd => ?_
    rw [bne_iff_ne]
    rintro rfl
    exact l.source.space_not_mem_text hd
  rw [before, baseModule?_blanks l.isBlank_indent, baseModule?_from l.isBlank_lead hlead hhead hc,
    hbase]

/-- A module that follows `from` without a blank is not found. -/
theorem baseModule?_before_eq_none (hlead : l.lead = [])
    (hfrom : hasWord fromWord l.source.text = false) : baseModule? false l.before = none := by
  obtain ⟨c, t, hcons, hc⟩ := l.exists_lead
  rw [hlead, List.nil_append] at hcons
  have hvisible : isBlank c = false := l.source.isBlank_text (by simp [hcons])
  have hhere : moduleAfterFrom? ('f' :: ("rom".toList ++ l.source.text ++ l.gap)) = none := by
    rw [Option.eq_none_iff_forall_ne_some]
    intro m hm
    obtain ⟨d, rest, hsplit, hd⟩ := exists_of_moduleAfterFrom? hm
    have hsame : fromWord ++ (c :: t ++ l.gap) = fromWord ++ d :: rest := by
      rw [← hsplit, ← hcons, List.append_assoc]
      rfl
    obtain ⟨rfl, -⟩ := List.cons.inj (List.append_cancel_left hsame)
    rw [hd] at hvisible
    contradiction
  have hrest : cutAtWord? fromWord true ("rom".toList ++ l.source.text) = none := by
    have hword : ∀ d ∈ "rom".toList, isWord d = true :=
      fun d hd => fromWord_isWord d (List.mem_cons_of_mem 'f' hd)
    have hfirst : fromWord.head? ≠ some c := by
      intro hsome
      simp [fromWord_isWord c (List.mem_of_head? hsome)] at hc
    have hnone : cutAtWord? fromWord false l.source.text = none := by
      simpa [hasWord] using hfrom
    rw [hcons, cutAtWord?_skip hfirst (by decide) hc] at hnone
    rw [cutAtWord?_inside hword, hcons, cutAtWord?_skip hfirst (by decide) hc, hnone]
    rfl
  have hbefore : l.before = l.indent ++ 'f' :: ("rom".toList ++ l.source.text ++ l.gap) := by
    rw [before, hlead, List.nil_append, List.append_assoc]
    rfl
  have hf : isWord 'f' = true := by decide
  rw [hbefore, baseModule?_blanks l.isBlank_indent, baseModule?, if_neg Bool.false_ne_true, hhere,
    hf]
  exact baseModule?_eq_none hrest l.isBlank_gap

/-- The clauses that the rule keeps. -/
def kept (unused : List Text) : List Text :=
  l.bare.filter fun x => !unused.contains (l.base ++ ['.'] ++ x)

/-- A line keeps the clauses that are not reported, in ascending order; if there are none, it gives
way to a `pass`. -/
theorem filterFrom_line (hlead : l.lead ≠ []) (hword : hasWord importWord l.source.text = false)
    (unused : List Text) (herase : ∀ x ∈ l.bare, Text.erase (l.base ++ ['.']) x = x) :
    filterFrom l.line unused = .ok (if l.kept unused = [] then passFor l.line
      else withNames l.line l.before (sort (l.kept unused))) := by
  have hbare : (commaPieces (trim l.text)).map trim = l.bare := by
    rw [map_trim_commaPieces_trim, l.commaPieces_text, l.map_trim_pieces]
  have hkept : keptNames l.base l.text unused = l.kept unused :=
    keptNames_eq_filter hbare herase unused
  rw [filterFrom_of_cut unused (l.cut hword) (l.baseModule?_before hlead), hkept]

/-- A line whose module follows `from` without a blank is not dealt with. -/
theorem filterFrom_line_eq_error (hlead : l.lead = [])
    (hword : hasWord importWord l.source.text = false)
    (hfrom : hasWord fromWord l.source.text = false) (unused : List Text) :
    filterFrom l.line unused = .error .noModule := by
  rw [filterFrom, l.cut hword]
  dsimp only
  rw [l.baseModule?_before_eq_none hlead hfrom]

end NamesLine

end Pruner.Import
