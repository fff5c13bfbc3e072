import Pruner.Proofs.Import.Edit
import Pruner.Proofs.Fix.Round

namespace Pruner.Import

open Pruner.Text Pruner.Line Pruner.Token Pruner.Fix

theorem escapeChar_of_isClauseChar {c : Char} (h : isClauseChar c = true) :
    escapeChar '\'' c = [c] := by
  have hnot : c ∉ ['\'', '\\', '\n', '\r', '\t'] := not_mem_of_all h (by decide)
  simp only [List.mem_cons, List.not_mem_nil, or_false, not_or] at hnot
  have hprint : isPrintable c = true := by
    simp only [isClauseChar, isNameChar, Bool.or_eq_true, Bool.and_eq_true, decide_eq_true_eq,
      beq_iff_eq] at h
    rcases h with (⟨hsmall, hword⟩ | rfl) | rfl
    · rw [isWord, if_pos hsmall] at hword
      simp only [Bool.or_eq_true, Bool.and_eq_true, decide_eq_true_eq, beq_iff_eq] at hword
      rw [isPrintable, if_pos hsmall, Bool.and_eq_true, decide_eq_true_eq, decide_eq_true_eq]
      omega
    · decide
    · decide
  simp [escapeChar, hnot, hprint]

theorem quoted_of_chars {name : Text} (h : ∀ c ∈ name, isClauseChar c = true) :
    quoted name = '\'' :: (name ++ ['\'']) := by
  have hquote : quoteFor name = '\'' := by
    have hnot : '\'' ∉ name := fun hmem => by
      have := h '\'' hmem
      revert this
      decide
    simp [quoteFor, hnot]
  have hescape : name.flatMap (escapeChar '\'') = name := by
    rw [List.flatMap_congr fun c hc => escapeChar_of_isClauseChar (h c hc)]
    simp
  rw [quoted, hquote, hescape]
  rfl

/-- The name of a clause is read off the text of its diagnostic as it is. -/
theorem shownName_of_chars {name : Text} (hne : name ≠ []) (h : ∀ c ∈ name, isClauseChar c = true) :
    Diagnostic.shownName name = .ok name := by
  obtain ⟨first, rest, rfl⟩ := List.exists_cons_of_ne_nil hne
  have hother {c : Char} (hc : c ∈ first :: rest) : c ∉ ['\'', '\n'] :=
    not_mem_of_all (h c hc) (by decide)
  have hfirst : first ≠ '\n' := fun heq => hother (c := first) (by simp) (by simp [heq])
  have hnewline : '\n' ∉ rest := fun hmem => hother (List.mem_cons_of_mem first hmem) (by simp)
  have htake (tail : Text) : (rest ++ '\'' :: tail).takeWhile (· != '\'') = rest := by
    rw [List.takeWhile_append_of_pos fun c hc => ?_]
    · simp
    · rw [bne_iff_ne]
      rintro rfl
      exact hother (List.mem_cons_of_mem first hc) (by simp)
  rw [Diagnostic.shownName, quoted_of_chars h, List.cons_append, List.append_assoc,
    List.cons_append, Diagnostic.betweenQuotes?]
  simp [htake, hfirst, hnewline]

/-- The names of unused clauses can be shown. -/
theorem Stmt.reported_chars {shown : ModuleClause → Text} {used : Option Text × Text → Bool}
    (hshown : ∀ c, shown c = c.text ∨ shown c = c.path.text) (s : Stmt) {name : Text}
    (hname : name ∈ s.reported shown used) :
    name ≠ [] ∧ ∀ c ∈ name, isClauseChar c = true := by
  have hpath (p : Path) {c : Char} (hc : c ∈ p.text) : isClauseChar c = true := by
    simp only [isClauseChar, Bool.or_eq_true, beq_iff_eq]
    exact Or.inl (p.chars hc)
  cases s with
  | modules first rest =>
    obtain ⟨m, -, rfl⟩ := List.mem_map.mp hname
    rcases hshown m with htext | htext
    · rw [htext]
      exact ⟨by simp [ModuleClause.text, m.path.ne_nil], fun c => m.chars⟩
    · rw [htext]
      exact ⟨m.path.ne_nil, fun c => hpath m.path⟩
  | names source first rest =>
    obtain ⟨n, hn, rfl⟩ := List.mem_map.mp hname
    refine ⟨by simp, fun c hc => ?_⟩
    rw [List.mem_append, List.mem_append, List.mem_singleton] at hc
    rcases hc with (hc | rfl) | hc
    · exact hpath source hc
    · decide
    · exact (Stmt.names source first rest).clause_chars
        (List.mem_map_of_mem (List.mem_filter.mp hn).1) hc

/-- A statement is reported if one of its clauses is not used. -/
theorem Stmt.reported_ne_nil (shown : ModuleClause → Text) {used : Option Text × Text → Bool}
    (s : Stmt) : s.reported shown used ≠ [] ↔ ∃ p ∈ s.pairs, used p = false := by
  have hfilter {α : Type} (cs : List α) (text : α → Text) (source : Option Text) (g : α → Text) :
      (cs.filter fun c => !used (source, text c)).map g ≠ [] ↔
        ∃ p ∈ (cs.map text).map (fun t => (source, t)), used p = false := by
    simp [List.filter_eq_nil_iff]
  cases s with
  | modules first rest => exact hfilter (first :: rest) ModuleClause.text none shown
  | names source first rest =>
    exact hfilter (first :: rest) NameClause.text (some source.text) _

section

variable {shown : ModuleClause → Text} {used : Option Text × Text → Bool} {stmts : List Stmt}
  {ds : List Diagnostic}

theorem mem_report {d : Diagnostic} :
    d ∈ report shown used stmts ↔ ∃ i s, stmts[i]? = some s ∧ ∃ name ∈ s.reported shown used,
      d = ⟨((i + 1 : Nat) : Int), .unusedImport name⟩ := by
  simp only [report, List.mem_flatMap, List.mem_map, Prod.exists]
  constructor
  · rintro ⟨s, number, hmem, name, hname, rfl⟩
    obtain ⟨hnumber, hs⟩ := List.mk_mem_zipIdx_iff_le_and_getElem?_sub.mp hmem
    exact ⟨number - 1, s, hs, name, hname, by rw [Nat.sub_add_cancel hnumber]⟩
  · rintro ⟨i, s, hs, name, hname, rfl⟩
    exact ⟨s, i + 1, List.mk_mem_zipIdx_iff_le_and_getElem?_sub.mpr ⟨by omega, by simpa using hs⟩,
      name, hname, rfl⟩

/-- The marks ask for the removal of the unused clauses, and for nothing else. -/
structure Marked (shown : ModuleClause → Text) (used : Option Text × Text → Bool)
    (stmts : List Stmt) (m : Marks) : Prop where
  imports : ∀ i s, stmts[i]? = some s →
    (m.imports.contains ((i + 1 : Nat) : Int) = true ↔ ∃ p ∈ s.pairs, used p = false)
  names : ∀ i s, stmts[i]? = some s → ∀ name,
    (((i + 1 : Nat) : Int), name) ∈ m.importNames ↔ name ∈ s.reported shown used
  assignments : m.assignments = []
  keys : m.keys = []
  stars : m.stars = []

theorem unusedImportNames_of_shown
    (h : ∀ d ∈ ds, ∃ name, d.problem = .unusedImport name ∧ Diagnostic.shownName name = .ok name) :
    ∃ names, Diagnostic.unusedImportNames ds = .ok names ∧
      ∀ k name, (k, name) ∈ names ↔ ⟨k, .unusedImport name⟩ ∈ ds := by
  induction ds with
  | nil => exact ⟨[], rfl, by simp⟩
  | cons d ds ih =>
    obtain ⟨names, hnames, hmem⟩ := ih fun d hd => h d (by simp [hd])
    obtain ⟨name, hproblem, hshown⟩ := h d (by simp)
    refine ⟨(d.line, name) :: names, ?_, fun k other => ?_⟩
    · rw [Diagnostic.unusedImportNames, hproblem]
      dsimp only
      rw [bind_eq_ok]
      refine ⟨name, hshown, ?_⟩
      rw [bind_eq_ok]
      exact ⟨names, hnames, rfl⟩
    · rw [List.mem_cons, List.mem_cons, hmem]
      obtain ⟨line, problem⟩ := d
      obtain rfl : problem = .unusedImport name := hproblem
      simp

/-- What is reported on the line of a statement. -/
theorem mem_of_perm_report (hds : ds.Perm (report shown used stmts)) {i : Nat} {s : Stmt}
    (hs : stmts[i]? = some s) {name : Text} :
    ⟨((i + 1 : Nat) : Int), .unusedImport name⟩ ∈ ds ↔ name ∈ s.reported shown used := by
  rw [hds.mem_iff, mem_report]
  constructor
  · rintro ⟨j, t, ht, other, hother, heq⟩
    simp only [Diagnostic.mk.injEq, Problem.unusedImport.injEq] at heq
    obtain rfl : j = i := by omega
    obtain rfl : s = t := Option.some.inj (hs.symm.trans ht)
    rwa [heq.2]
  · intro hname
    exact ⟨i, s, hs, name, hname, rfl⟩

theorem selections_of_unused (h : ∀ d ∈ ds, ∃ name, d.problem = .unusedImport name) :
    Diagnostic.starUsages ds = [] ∧ Diagnostic.unusedVariableLines ds = [] ∧
      Diagnostic.repeatedKeys ds = [] := by
  refine ⟨?_, ?_, ?_⟩ <;>
  · refine List.filterMap_eq_nil_iff.mpr fun d hd => ?_
    obtain ⟨name, hproblem⟩ := h d hd
    rw [hproblem]

theorem exists_marks (hshown : ∀ c, shown c = c.text ∨ shown c = c.path.text)
    (hds : ds.Perm (report shown used stmts)) (options : Options) (source : Text) :
    ∃ m, marks options source ds = .ok m ∧ Marked shown used stmts m := by
  have hall : ∀ d ∈ ds, ∃ name, d.problem = .unusedImport name ∧
      Diagnostic.shownName name = .ok name := by
    intro d hd
    obtain ⟨i, s, -, name, hname, rfl⟩ := mem_report.mp (hds.mem_iff.mp hd)
    obtain ⟨hne, hchars⟩ := s.reported_chars hshown hname
    exact ⟨name, rfl, shownName_of_chars hne hchars⟩
  obtain ⟨names, hnames, hmem⟩ := unusedImportNames_of_shown hall
  obtain ⟨hstars, hvariables, hkeys⟩ := selections_of_unused fun d hd =>
    (hall d hd).imp fun _ hname => hname.1
  refine ⟨⟨Diagnostic.unusedImportLines ds, names, [], [], [], []⟩,
    marks_eq_ok.mpr ⟨rfl, hnames, ?_, ?_, ?_, ?_⟩, ?_, ?_, rfl, rfl, rfl⟩
  · simp [markedStars, hstars]
  · simp [hstars]
  · simp [hvariables]
  · rw [DuplicateKey.removableLines, hkeys]
    split <;> rfl
  · intro i s hs
    rw [← s.reported_ne_nil shown, List.contains_iff_mem, mem_unusedImportLines]
    constructor
    · rintro ⟨name, hname⟩
      exact List.ne_nil_of_mem ((mem_of_perm_report hds hs).mp hname)
    · intro hne
      obtain ⟨name, hname⟩ := List.exists_mem_of_ne_nil _ hne
      exact ⟨name, (mem_of_perm_report hds hs).mpr hname⟩
  · intro i s hs name
    exact (hmem _ name).trans (mem_of_perm_report hds hs)

end

end Pruner.Import
