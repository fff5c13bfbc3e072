import Pruner.Proofs.Fix.Layout
import Pruner.Proofs.Import.Spacing

namespace Pruner.Text

theorem isClause_iff {x : Text} : IsClause x ↔ x ≠ [] ∧ trim x = x ∧ ',' ∉ x := by
  constructor
  · intro h
    exact ⟨h.ne_nil, trim_eq_self h.solid, h.no_comma⟩
  · rintro ⟨hne, htrim, hcomma⟩
    exact ⟨hne, htrim ▸ trim_solid x, hcomma⟩

instance (x : Text) : Decidable (IsClause x) :=
  decidable_of_iff _ isClause_iff.symm

/-- Clauses that are written one after the other, with a comma and any blanks between neighbours. -/
inductive Listed : List Text → Text → Prop
  | last (x : Text) : Listed [x] x
  | more (x left right : Text) {xs : List Text} {t : Text} (hleft : left.all isBlank = true)
      (hright : right.all isBlank = true) (h : Listed xs t) :
      Listed (x :: xs) (x ++ (left ++ ',' :: (right ++ t)))

namespace Listed

variable {xs : List Text} {t : Text}

/-- The clauses are what stands between the commas. -/
theorem map_trim_commaPieces (h : Listed xs t) (hxs : ∀ x ∈ xs, IsClause x) :
    (commaPieces t).map trim = xs := by
  induction h with
  | last x =>
    have hx : IsClause x := hxs x (by simp)
    rw [commaPieces_of_not_mem hx.no_comma, List.map_singleton, trim_eq_self hx.solid]
  | @more x left right xs t hleft hright h ih =>
    have hx : IsClause x := hxs x (by simp)
    have hleft := List.all_eq_true.mp hleft
    have hright := List.all_eq_true.mp hright
    have hcomma : ',' ∉ x ++ left := by
      rw [List.mem_append, not_or]
      exact ⟨hx.no_comma, not_mem_of_blank hleft (by decide)⟩
    have hrest : (commaPieces (right ++ t)).map trim = (commaPieces t).map trim := by
      rw [← map_trim_commaPieces_trim, trim_append_left hright, map_trim_commaPieces_trim]
    rw [← List.append_assoc, commaPieces_comma hcomma, List.map_cons, trim_append_right hleft,
      trim_eq_self hx.solid, hrest, ih fun y hy => hxs y (List.mem_cons_of_mem x hy)]

/-- The list ends where its last clause ends. -/
theorem exists_getLast? (h : Listed xs t) (hxs : ∀ x ∈ xs, IsClause x) :
    ∃ c, t.getLast? = some c ∧ isBlank c = false := by
  induction h with
  | last x =>
    have hx : IsClause x := hxs x (by simp)
    have hlast := List.getLast?_eq_getLast_of_ne_nil hx.ne_nil
    exact ⟨x.getLast hx.ne_nil, hlast, hx.solid.last _ hlast⟩
  | @more x left right xs t hleft hright h ih =>
    obtain ⟨c, hlast, hc⟩ := ih fun y hy => hxs y (List.mem_cons_of_mem x hy)
    refine ⟨c, ?_, hc⟩
    have hne : t ≠ [] := by
      rintro rfl
      simp at hlast
    rw [← List.append_assoc, ← List.singleton_append, ← List.append_assoc, ← List.append_assoc,
      List.getLast?_append_of_ne_nil _ hne, hlast]

end Listed

theorem listed_join {xs : List Text} (hne : xs ≠ []) : Listed xs (join ", ".toList xs) := by
  induction xs with
  | nil => exact absurd rfl hne
  | cons x xs ih =>
    cases xs with
    | nil => exact .last x
    | cons y ys =>
      have hrest := Listed.more x [] [' '] rfl (by decide) (ih (List.cons_ne_nil y ys))
      have hjoin : join ", ".toList (x :: y :: ys) =
          x ++ ([] ++ ',' :: ([' '] ++ join ", ".toList (y :: ys))) := by
        rw [join, List.append_assoc]
        rfl
      rwa [hjoin]

end Pruner.Text

namespace Pruner.Import

open Pruner.Text Pruner.Line

/-- An import of names: blanks between its words, the names with commas and blanks between them, and
blanks at the end. The module is any visible text in which the word `import` is not found. -/
structure FromImport where
  indent : Text
  /-- The blanks after `from`. -/
  lead : Text
  source : Text
  /-- The blanks before `import`, of which the first is a space. -/
  gap : Text
  /-- The blanks after `import`. -/
  start : Text
  names : List Text
  /-- The names as they are written. -/
  list : Text
  close : Text
  indent_blank : indent.all isBlank = true
  lead_blank : lead.all isBlank = true
  lead_ne_nil : lead ≠ []
  source_visible : source.all (!isBlank ·) = true
  source_ne_nil : source ≠ []
  source_word : hasWord importWord source = false
  gap_blank : gap.all isBlank = true
  gap_space : gap.head? = some ' '
  start_blank : start.all isBlank = true
  start_ne_nil : start ≠ []
  clauses : ∀ x ∈ names, IsClause x
  unqualified : ∀ x ∈ names, occursIn (source ++ ['.']) x = false
  listed : Listed names list
  close_blank : close.all isBlank = true

namespace FromImport

variable (l : FromImport)

/-- The line up to the word `import`. -/
def before : Text :=
  l.indent ++ (fromWord ++ (l.lead ++ (l.source ++ l.gap)))

def after : Text :=
  l.start ++ l.list ++ l.close

def line : Text :=
  l.before ++ importWord ++ l.after

/-- The names that are not reported as unused. -/
def kept (unused : List Text) : List Text :=
  l.names.filter fun x => !unused.contains (l.source ++ ['.'] ++ x)

/-- The line with other names, one space after each comma. -/
def printed (names : List Text) : Text :=
  l.before ++ "import ".toList ++ join ", ".toList names ++ l.close

theorem isBlank_source {c : Char} (hc : c ∈ l.source) : isBlank c = false := by
  simpa using List.all_eq_true.mp l.source_visible c hc

theorem head_after : l.after.head?.any isWord = false := by
  obtain ⟨c, cs, hstart⟩ := List.exists_cons_of_ne_nil l.start_ne_nil
  have hc : isBlank c = true := List.all_eq_true.mp l.start_blank c (by simp [hstart])
  simp [after, hstart, isWord_eq_false_of_isBlank hc]

/-- The line is cut at its own `import`. -/
theorem cut : cutAtWord? importWord false l.line = some (l.before, l.after) := by
  have hindent := List.all_eq_true.mp l.indent_blank
  have hlead := List.all_eq_true.mp l.lead_blank
  have hgap := List.all_eq_true.mp l.gap_blank
  obtain ⟨c, lead, hc⟩ := List.exists_cons_of_ne_nil l.lead_ne_nil
  obtain ⟨gap, hspace⟩ := List.head?_eq_some_iff.mp l.gap_space
  rw [hc, List.forall_mem_cons] at hlead
  rw [hspace, List.forall_mem_cons] at hgap
  have hline : l.line = l.indent ++ (fromWord ++ c :: (lead ++ (l.source ++
      ' ' :: (gap ++ (importWord ++ l.after))))) := by
    simp [line, before, hc, hspace]
  have hbefore : l.before = l.indent ++ (fromWord ++ c :: (lead ++ (l.source ++ ' ' :: gap))) := by
    simp [before, hc, hspace]
  have hsource : cutAtWord? importWord false l.source = none := by
    simpa [hasWord] using l.source_word
  have hbreak (t : Text) : (' ' :: t).head?.any isWord = false ∨
      l.source.getLast?.any isWord = false :=
    Or.inl (show isWord ' ' = false by decide)
  -- Word by word: the module has no `import` of its own, and a space keeps it from the next word.
  rw [hline, hbefore, cutAtWord?_blanks hindent isBlank_head_importWord (by decide),
    cutAtWord?_from (isWord_eq_false_of_isBlank hlead.1),
    cutAtWord?_blanks hlead.2 isBlank_head_importWord (by decide),
    cutAtWord?_append_of_none importWord_isWord hsource (hbreak _),
    cutAtWord?_skip (by decide) (by decide) (by decide),
    cutAtWord?_blanks hgap.2 isBlank_head_importWord (by decide),
    cutAtWord?_here (by decide) l.head_after]
  simp

/-- The module is read as it is written. -/
theorem baseModule?_before : baseModule? false l.before = some l.source := by
  obtain ⟨c, cs, hsource⟩ := List.exists_cons_of_ne_nil l.source_ne_nil
  obtain ⟨gap, hspace⟩ := List.head?_eq_some_iff.mp l.gap_space
  have hc : isBlank c = false := l.isBlank_source (by simp [hsource])
  have hhead : (l.source ++ l.gap).head? = some c := by simp [hsource]
  have htake : (l.source ++ l.gap).takeWhile (· != ' ') = l.source := by
    rw [hspace, List.takeWhile_append_of_pos]
    · simp
    · intro d hd
      rw [bne_iff_ne]
      rintro rfl
      have hvisible := l.isBlank_source hd
      revert hvisible
      decide
  rw [before, baseModule?_blanks (List.all_eq_true.mp l.indent_blank),
    baseModule?_from (List.all_eq_true.mp l.lead_blank) l.lead_ne_nil hhead hc, htake]

theorem keptNames_after (unused : List Text) :
    keptNames l.source l.after unused = l.kept unused := by
  have hnames : (commaPieces (trim l.after)).map trim = l.names := by
    rw [map_trim_commaPieces_trim, after, map_trim_commaPieces_append
      (List.all_eq_true.mp l.start_blank) (List.all_eq_true.mp l.close_blank),
      l.listed.map_trim_commaPieces l.clauses]
  refine keptNames_eq_filter hnames (fun x hx => ?_) unused
  exact erase_of_not_occursIn (by simp) (l.unqualified x hx)

theorem ending_line : ending l.line = l.close := by
  obtain ⟨c, hlast, hc⟩ := l.listed.exists_getLast? l.clauses
  have hne : l.list ≠ [] := by
    intro hnil
    simp [hnil] at hlast
  rw [line, after, ← List.append_assoc, ← List.append_assoc]
  refine ending_append ?_ (List.all_eq_true.mp l.close_blank)
  rw [List.getLast?_append_of_ne_nil _ hne, hlast]
  rintro d hd
  rwa [← Option.some_inj.mp hd]

theorem passFor_line : passFor l.line = l.indent ++ "pass".toList ++ l.close := by
  have hline : l.line = l.indent ++ (fromWord ++ (l.lead ++ (l.source ++ l.gap)) ++ importWord ++
      l.after) := by
    simp [line, before]
  have hfrom : trimLeft (fromWord ++ (l.lead ++ (l.source ++ l.gap)) ++ importWord ++ l.after) =
      fromWord ++ (l.lead ++ (l.source ++ l.gap)) ++ importWord ++ l.after :=
    trimLeft_eq_self (by simp [fromWord, isBlank])
  have hmargin : indentation l.line = l.indent := by
    rw [hline]
    exact (Fix.indentation_append (List.all_eq_true.mp l.indent_blank) hfrom
      (by simp [fromWord])).1
  rw [passFor, hmargin, l.ending_line]

theorem filterFrom_eq (unused : List Text) : filterFrom l.line unused =
    .ok (if l.kept unused = [] then l.indent ++ "pass".toList ++ l.close
      else l.printed (sort (l.kept unused))) := by
  rw [filterFrom_of_cut unused l.cut l.baseModule?_before, l.keptNames_after, l.passFor_line,
    withNames, l.ending_line, printed]

/-- The line with some of its names in another order and printed anew. -/
def selecting (names : List Text) (hne : names ≠ []) (hnames : ∀ x ∈ names, x ∈ l.names) :
    FromImport :=
  { l with
    start := [' ']
    names := names
    list := join ", ".toList names
    start_blank := rfl
    start_ne_nil := List.cons_ne_nil ' ' []
    clauses := fun x hx => l.clauses x (hnames x hx)
    unqualified := fun x hx => l.unqualified x (hnames x hx)
    listed := listed_join hne }

theorem line_selecting {names : List Text} (hne : names ≠ []) (hnames : ∀ x ∈ names, x ∈ l.names) :
    (l.selecting names hne hnames).line = l.printed names := by
  rw [printed, import_space]
  simp [line, before, after, selecting]

/-- Names that are all kept stay in a line that has them in ascending order. -/
theorem filterFrom_printed {names : List Text} (hne : names ≠ []) {unused : List Text}
    (hnames : ∀ x ∈ names, x ∈ l.kept unused) (hsort : sort names = names) :
    filterFrom (l.printed names) unused = .ok (l.printed names) := by
  -- The printed line is itself an import of names, from which nothing is left out.
  have hmem : ∀ x ∈ names, x ∈ l.names := fun x hx => (List.mem_filter.mp (hnames x hx)).1
  have hkept : (l.selecting names hne hmem).kept unused = names :=
    List.filter_eq_self.mpr fun x hx => (List.mem_filter.mp (hnames x hx)).2
  have hline := (l.selecting names hne hmem).filterFrom_eq unused
  rw [hkept, if_neg hne, hsort, l.line_selecting] at hline
  exact hline

/-- The names that are not reported are printed in ascending order behind the old words of the line,
and if there are none the line is a `pass`. What is printed that way stays. -/
theorem filterFrom_reprints (unused : List Text) :
    (l.kept unused = [] →
      filterFrom l.line unused = .ok (l.indent ++ "pass".toList ++ l.close)) ∧
    (l.kept unused ≠ [] → ∃ order : List Text,
      order.Perm (l.kept unused) ∧ order.Pairwise (fun a b => le a b = true) ∧
      filterFrom l.line unused = .ok (l.printed order) ∧
      filterFrom (l.printed order) unused = .ok (l.printed order)) := by
  constructor
  · intro hnil
    rw [filterFrom_eq, if_pos hnil]
  · intro hne
    have hperm := sort_perm (l.kept unused)
    have hsorted : sort (l.kept unused) ≠ [] := by
      intro hnil
      rw [hnil] at hperm
      exact hne hperm.nil_eq.symm
    refine ⟨sort (l.kept unused), hperm, sort_sorted _, ?_, ?_⟩
    · rw [filterFrom_eq, if_neg hne]
    · exact l.filterFrom_printed hsorted (fun x hx => hperm.mem_iff.mp hx) (sort_sort _)

end FromImport

/-- Blanks of all kinds, a module with the same name twice in its path, and a name given twice. -/
def unevenImport : FromImport where
  indent := "\t ".toList
  lead := "  ".toList
  source := "..a.a".toList
  gap := " \t".toList
  start := "\t".toList
  names := ["c as d".toList, "b".toList, "a.a".toList, "b".toList]
  list := "c as d ,b,\t a.a, b".toList
  close := " \r\n".toList
  indent_blank := by decide
  lead_blank := by decide
  lead_ne_nil := by decide
  source_visible := by decide
  source_ne_nil := by decide
  source_word := by decide
  gap_blank := by decide
  gap_space := by decide
  start_blank := by decide
  start_ne_nil := by decide
  clauses := by decide
  unqualified := by decide
  listed := .more "c as d".toList [' '] [] rfl rfl (.more "b".toList [] ['\t', ' '] rfl rfl
    (.more "a.a".toList [] [' '] rfl rfl (.last "b".toList)))
  close_blank := by decide

/-- With some of the names left, and with none. -/
theorem FromImport.filterFrom_reprints_uneven :
    unevenImport.line = "\t from  ..a.a \timport\tc as d ,b,\t a.a, b \r\n".toList ∧
    (∃ order : List Text, order.Perm ["b".toList, "a.a".toList, "b".toList] ∧
      order.Pairwise (fun a b => le a b = true) ∧
      filterFrom unevenImport.line ["..a.a.c as d".toList] = .ok (unevenImport.printed order) ∧
      filterFrom (unevenImport.printed order) ["..a.a.c as d".toList] =
        .ok (unevenImport.printed order)) ∧
    filterFrom unevenImport.line ["..a.a.c as d".toList, "..a.a.a.a".toList, "..a.a.b".toList] =
      .ok (unevenImport.indent ++ "pass".toList ++ unevenImport.close) := by
  have hsome : unevenImport.kept ["..a.a.c as d".toList] =
      ["b".toList, "a.a".toList, "b".toList] := by decide
  have hnone : unevenImport.kept ["..a.a.c as d".toList, "..a.a.a.a".toList, "..a.a.b".toList] =
      [] := by decide
  have hprinted := (filterFrom_reprints unevenImport ["..a.a.c as d".toList]).2
  rw [hsome] at hprinted
  exact ⟨by decide, hprinted (List.cons_ne_nil _ _), (filterFrom_reprints unevenImport _).1 hnone⟩

end Pruner.Import
