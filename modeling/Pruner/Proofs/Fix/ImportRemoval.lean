import Pruner.Proofs.Import.Report

namespace Pruner.Import

open Pruner.Text Pruner.Line Pruner.Token Pruner.Fix

/-- What one round makes of a list of statements. -/
def PrunedAll (used : Option Text × Text → Bool) (stmts left : List Stmt) : Prop :=
  ∃ parts, List.Forall₂ (Pruned used) stmts parts ∧ left = parts.flatten

theorem lines_render (stmts : List Stmt) : lines (render stmts) = stmts.map Stmt.line := by
  refine lines_flatten_of_lined (Lined.of_forall fun l hl => ?_)
  obtain ⟨s, -, rfl⟩ := List.mem_map.mp hl
  exact ⟨s.isLine_line, s.endsLine_line⟩

theorem flat_passLine : Flat passLine := by
  have hplain : passLine.all isPlain = true := by decide
  exact ⟨⟨'p', rfl, by decide, by decide⟩, List.all_eq_true.mp hplain⟩

theorem Written.lines {part : List Stmt} {ls : List Text} (h : Written part ls) :
    (∀ l ∈ ls, Flat l ∧ IsLine l ∧ EndsLine l) ∧
      ls.filter (trim · != passWord) = part.map Stmt.line := by
  rcases h with ⟨rfl, rfl⟩ | rfl
  · refine ⟨fun l hl => ?_, by decide⟩
    rw [List.mem_singleton.mp hl]
    exact ⟨flat_passLine, isLine_append (s := passWord) (by decide), endsLine_append passWord⟩
  · constructor
    · intro l hl
      obtain ⟨s, -, rfl⟩ := List.mem_map.mp hl
      exact ⟨s.flat_line, s.isLine_line, s.endsLine_line⟩
    · refine List.filter_eq_self.mpr fun l hl => ?_
      obtain ⟨s, -, rfl⟩ := List.mem_map.mp hl
      simpa using s.trim_ne_pass

section

variable {shown : ModuleClause → Text} {used : Option Text × Text → Bool} {stmts : List Stmt}
  {options : Options} {m : Marks}

/-- A name is reported with its module exactly if it is not used. -/
theorem Stmt.mem_reported {s : Stmt} {source c : Text} (hsource : s.source? = some source)
    (hc : c ∈ s.clauses) :
    source ++ ['.'] ++ c ∈ s.reported shown used ↔ used (some source, c) = false := by
  cases s with
  | modules first rest => simp [source?] at hsource
  | names path first rest =>
    obtain rfl : path.text = source := by simpa [source?] using hsource
    rw [reported, List.mem_map]
    constructor
    · rintro ⟨n, hn, heq⟩
      rw [← List.append_cancel_left heq]
      simpa using (List.mem_filter.mp hn).2
    · intro hunused
      obtain ⟨n, hn, rfl⟩ := List.mem_map.mp hc
      exact ⟨n, List.mem_filter.mpr ⟨hn, by simp [hunused]⟩, rfl⟩

/-- The edit of one line. -/
theorem exists_edit (hm : Marked shown used stmts m) (hall : options.removeAllUnusedImports = true)
    {i : Nat} {s : Stmt} (hs : stmts[i]? = some s) {previous : Text}
    (hprevious : isJoined previous = false) :
    ∃ part ls, Pruned used s part ∧ editLine options m (i + 1) previous s.line = .ok ls.flatten ∧
      Written part ls := by
  rw [editLine, s.contains_line (by decide) (by decide), if_neg (by simp)]
  by_cases hunused : ∃ p ∈ s.pairs, used p = false
  · rw [if_pos ((hm.imports i s hs).mpr hunused), hall]
    refine exists_pruned s _ hprevious hunused fun source hsource c hc => ?_
    rw [Bool.eq_iff_iff, List.contains_iff_mem, Bool.not_eq_true', ← s.mem_reported hsource hc,
      ← hm.names i s hs]
    simp
  · have hused : ∀ p ∈ s.pairs, used p = true := fun p hp => by
      by_contra hp'
      exact hunused ⟨p, hp, by simpa using hp'⟩
    rw [if_neg (mt (hm.imports i s hs).mp hunused), hm.assignments, hm.keys, hm.stars]
    exact ⟨[s], [s.line], .kept hused, by simp, Or.inr rfl⟩

theorem exists_edits (hm : Marked shown used stmts m) (hall : options.removeAllUnusedImports = true)
    {done rest : List Stmt} (h : stmts = done ++ rest) {previous : Text}
    (hprevious : isJoined previous = false) :
    ∃ parts lss, List.Forall₂ (Pruned used) rest parts ∧ List.Forall₂ Written parts lss ∧
      editLines options m (1 + done.length) previous (rest.map Stmt.line) =
        .ok (lss.map List.flatten) := by
  induction rest generalizing done previous with
  | nil => exact ⟨[], [], .nil, .nil, rfl⟩
  | cons s rest ih =>
    have hs : stmts[done.length]? = some s := by simp [h]
    obtain ⟨part, ls, hpart, hedit, hwritten⟩ := exists_edit hm hall hs hprevious
    have hnext : stmts = (done ++ [s]) ++ rest := by simp [h]
    obtain ⟨parts, lss, hparts, hlss, hedits⟩ := ih hnext s.flat_line.not_joined
    refine ⟨part :: parts, ls :: lss, .cons hpart hparts, .cons hwritten hlss, ?_⟩
    rw [List.map_cons, editLines_cons_eq_ok]
    refine ⟨_, _, ?_, ?_, rfl⟩
    · rwa [Nat.add_comm]
    · simpa [Nat.add_assoc] using hedits

theorem flatten_written {parts : List (List Stmt)} {lss : List (List Text)}
    (h : List.Forall₂ Written parts lss) :
    UselessPass.filter (lss.map List.flatten).flatten = render parts.flatten := by
  have hlines : (∀ l ∈ lss.flatten, Flat l ∧ IsLine l ∧ EndsLine l) ∧
      lss.flatten.filter (trim · != passWord) = parts.flatten.map Stmt.line := by
    induction h with
    | nil => simp
    | cons hwritten _ ih =>
      obtain ⟨hflat, hfilter⟩ := hwritten.lines
      constructor
      · simp only [List.flatten_cons, List.mem_append]
        rintro l (hl | hl)
        · exact hflat l hl
        · exact ih.1 l hl
      · rw [List.flatten_cons, List.filter_append, hfilter, ih.2, List.flatten_cons, List.map_append]
  rw [← List.flatten_flatten, UselessPass.filter_flat
    (Lined.of_forall fun l hl => (hlines.1 l hl).2) fun l hl => (hlines.1 l hl).1, hlines.2, render]

/-- One round prunes every statement. -/
theorem round_render {ds : List Diagnostic}
    (hshown : ∀ c, shown c = c.text ∨ shown c = c.path.text)
    (hds : ds.Perm (report shown used stmts)) (hall : options.removeAllUnusedImports = true) :
    ∃ left, round options ds (render stmts) = .ok (render left) ∧ PrunedAll used stmts left := by
  obtain ⟨m, hmarks, hm⟩ := exists_marks hshown hds options (render stmts)
  obtain ⟨parts, lss, hparts, hlss, hedits⟩ :=
    exists_edits hm hall (List.nil_append stmts).symm (show isJoined [] = false from rfl)
  refine ⟨parts.flatten, round_eq_ok.mpr ⟨lss.map List.flatten, ?_, flatten_written hlss⟩,
    parts, hparts, rfl⟩
  rw [filterCode_eq_ok, lines_render]
  exact ⟨m, hmarks, hedits⟩

end

section

variable {used : Option Text × Text → Bool}

theorem pairs_cons (s : Stmt) (stmts : List Stmt) : pairs (s :: stmts) = s.pairs ++ pairs stmts :=
  rfl

theorem pairs_append (stmts more : List Stmt) : pairs (stmts ++ more) = pairs stmts ++ pairs more :=
  List.flatMap_append ..

/-- After the first round a statement has only used clauses, or one clause. -/
def Settled (used : Option Text × Text → Bool) (s : Stmt) : Prop :=
  (∀ p ∈ s.pairs, used p = true) ∨ s.pairs.length = 1

theorem Pruned.settled {s : Stmt} {part : List Stmt} (h : Pruned used s part) :
    ((pairs part).filter used).Perm (s.pairs.filter used) ∧ ∀ t ∈ part, Settled used t := by
  cases h with
  | kept hused =>
    refine ⟨by simp [pairs], fun t ht => Or.inl ?_⟩
    rwa [List.mem_singleton.mp ht]
  | reduced hperm _ =>
    refine ⟨?_, fun t ht => Or.inl fun p hp => ?_⟩
    · simpa using hperm.filter used
    · have hmem : p ∈ pairs part := List.mem_flatMap.mpr ⟨t, ht, hp⟩
      exact (List.mem_filter.mp (hperm.subset hmem)).2
  | split hperm hsingle _ _ => exact ⟨hperm.filter used, fun t ht => Or.inr (hsingle t ht)⟩

theorem Pruned.exact {s : Stmt} {part : List Stmt} (h : Pruned used s part)
    (hs : Settled used s) : (pairs part).Perm (s.pairs.filter used) := by
  cases h with
  | kept hused => simp [pairs, List.filter_eq_self.mpr hused]
  | reduced hperm _ => exact hperm
  | split hperm _ hmany hunused =>
    rcases hs with hused | hone
    · obtain ⟨p, hp, hfalse⟩ := hunused
      simp [hused p hp] at hfalse
    · omega

theorem Pruned.unchanged {s : Stmt} {part : List Stmt} (h : Pruned used s part)
    (hs : ∀ p ∈ s.pairs, used p = true) : part = [s] := by
  have hnot : ¬∃ p ∈ s.pairs, used p = false := by
    rintro ⟨p, hp, hfalse⟩
    simp [hs p hp] at hfalse
  cases h with
  | kept => rfl
  | reduced _ hunused => exact absurd hunused hnot
  | split _ _ _ hunused => exact absurd hunused hnot

theorem PrunedAll.settled {stmts left : List Stmt} (h : PrunedAll used stmts left) :
    ((pairs left).filter used).Perm ((pairs stmts).filter used) ∧ ∀ t ∈ left, Settled used t := by
  obtain ⟨parts, hparts, rfl⟩ := h
  induction hparts with
  | nil => simp
  | cons hpart _ ih =>
    obtain ⟨hperm, hsettled⟩ := hpart.settled
    rw [List.flatten_cons, pairs_append, pairs_cons, List.filter_append, List.filter_append]
    refine ⟨hperm.append ih.1, fun t ht => ?_⟩
    rcases List.mem_append.mp ht with ht | ht
    · exact hsettled t ht
    · exact ih.2 t ht

theorem PrunedAll.exact {stmts left : List Stmt} (h : PrunedAll used stmts left)
    (hs : ∀ s ∈ stmts, Settled used s) : (pairs left).Perm ((pairs stmts).filter used) := by
  obtain ⟨parts, hparts, rfl⟩ := h
  induction hparts with
  | nil => exact List.Perm.nil
  | cons hpart _ ih =>
    rw [List.flatten_cons, pairs_append, pairs_cons, List.filter_append]
    exact (hpart.exact (hs _ (by simp))).append (ih fun s hmem => hs s (by simp [hmem]))

theorem PrunedAll.unchanged {stmts left : List Stmt} (h : PrunedAll used stmts left)
    (hs : ∀ p ∈ pairs stmts, used p = true) : left = stmts := by
  obtain ⟨parts, hparts, rfl⟩ := h
  induction hparts with
  | nil => rfl
  | cons hpart _ ih =>
    simp only [pairs_cons, List.mem_append] at hs
    rw [List.flatten_cons, hpart.unchanged fun p hp => hs p (Or.inl hp),
      ih fun p hp => hs p (Or.inr hp)]
    rfl

/-- Two rounds leave exactly what is used. -/
theorem PrunedAll.twice {stmts first second : List Stmt} (h : PrunedAll used stmts first)
    (h' : PrunedAll used first second) : (pairs second).Perm ((pairs stmts).filter used) := by
  obtain ⟨hperm, hsettled⟩ := h.settled
  exact (h'.exact hsettled).trans hperm

end

section

variable {shown : ModuleClause → Text} {used : Option Text × Text → Bool} {options : Options}
  {check : Nat → Text → List Diagnostic}

theorem outcome_loop_render (hshown : ∀ c, shown c = c.text ∨ shown c = c.path.text)
    (hcheck : ∀ index stmts, (check index (render stmts)).Perm (report shown used stmts))
    (hall : options.removeAllUnusedImports = true) (stmts : List Stmt) :
    ∃ left, (pairs left).Perm ((pairs stmts).filter used) ∧
      ∀ rounds, (loop options check (rounds + 3) 0 (render stmts)).outcome = .done (render left) := by
  obtain ⟨first, hfirst, hpruned⟩ := round_render hshown (hcheck 0 stmts) hall
  by_cases hsame : render first = render stmts
  · -- The second round would give the same text, so that it may be counted as done.
    obtain ⟨second, hsecond, hpruned'⟩ := round_render hshown (hcheck 0 first) hall
    have hrender : render second = render first := by
      rw [hsame, hfirst] at hsecond
      exact (Except.ok.inj hsecond).symm
    refine ⟨second, hpruned.twice hpruned', fun rounds => ?_⟩
    rw [outcome_loop hfirst, if_pos hsame, hrender]
  · obtain ⟨second, hsecond, hpruned'⟩ := round_render hshown (hcheck 1 first) hall
    have hperm := hpruned.twice hpruned'
    obtain ⟨third, hthird, hpruned''⟩ := round_render hshown (hcheck 2 second) hall
    obtain rfl : third = second := hpruned''.unchanged fun p hp =>
      (List.mem_filter.mp (hperm.subset hp)).2
    refine ⟨third, hperm, fun rounds => ?_⟩
    rw [outcome_loop hfirst, if_neg hsame, outcome_loop hsecond]
    split
    · rfl
    · rw [outcome_loop hthird, if_pos rfl]

/-- A source of import statements is fixed in at most three rounds, and then imports exactly what it
imported before and is used. -/
theorem fixCode_removes_unused_imports
    (hshown : ∀ c, shown c = c.text ∨ shown c = c.path.text)
    (hcheck : ∀ index stmts, (check index (render stmts)).Perm (report shown used stmts))
    (hall : options.removeAllUnusedImports = true) (stmts : List Stmt) :
    ∃ left, (pairs left).Perm ((pairs stmts).filter used) ∧ ∀ rounds, 3 ≤ rounds →
      (fixCode options check rounds (render stmts)).outcome = .done (render left) := by
  have hall' : (effective options (render stmts)).removeAllUnusedImports = true := by
    rw [effective]
    split <;> exact hall
  cases stmts with
  | nil => exact ⟨[], List.Perm.nil, fun _ _ => rfl⟩
  | cons s stmts =>
    obtain ⟨left, hperm, houtcome⟩ := outcome_loop_render hshown hcheck hall' (s :: stmts)
    refine ⟨left, hperm, fun rounds hrounds => ?_⟩
    have hne : (render (s :: stmts)).isEmpty = false := by
      simp [render, s.isLine_line.ne_nil]
    obtain ⟨more, rfl⟩ := Nat.exists_eq_add_of_le' hrounds
    rw [fixCode, hne, if_neg (by simp)]
    exact houtcome more

end

/-- What a line imports, read back from its text. -/
def readPairs (line : Text) : List (Option Text × Text) :=
  match cutAtWord? importWord false line with
  | none => []
  | some (before, after) => (commaPieces after).map fun x => (baseModule? false before, trim x)

theorem readPairs_line (s : Stmt) : readPairs s.line = s.pairs := by
  have hsource : baseModule? false s.before = s.source? := by
    cases s with
    | modules first rest => rfl
    | names source first rest => exact baseModule?_before rfl
  rw [readPairs, s.cut]
  dsimp only
  rw [hsource, Stmt.pairs, ← s.clauses_of_after, List.map_map]
  rfl

/-- A check that reads the imports of a source back and reports those that are not used. -/
def readReport (used : Option Text × Text → Bool) (source : Text) : List Diagnostic :=
  ((lines source).zipIdx 1).flatMap fun (line, number) =>
    ((readPairs line).filter (!used ·)).map fun p =>
      ⟨number, .unusedImport (p.1.elim p.2 (· ++ ['.'] ++ p.2))⟩

theorem readReport_render (used : Option Text × Text → Bool) (stmts : List Stmt) :
    readReport used (render stmts) = report ModuleClause.text used stmts := by
  rw [readReport, lines_render, report, List.zipIdx_map, List.flatMap_map]
  refine List.flatMap_congr fun x _ => ?_
  obtain ⟨s, number⟩ := x
  dsimp only [Prod.map]
  rw [readPairs_line, Stmt.pairs, List.filter_map, List.map_map]
  cases s with
  | modules first rest =>
    rw [Stmt.clauses, List.filter_map, List.map_map, Stmt.reported, List.map_map]
    rfl
  | names source first rest =>
    rw [Stmt.clauses, List.filter_map, List.map_map, Stmt.reported, List.map_map]
    rfl

/-- Imports of modules and of names, of which some are used. -/
def mixedImports : List Stmt :=
  [.modules ⟨⟨⟨"os".toList, by decide⟩, []⟩, none⟩
      [⟨⟨⟨"sys".toList, by decide⟩, [⟨"path".toList, by decide⟩]⟩, some ⟨"p".toList, by decide⟩⟩],
    .names ⟨⟨"a".toList, by decide⟩, [⟨"b".toList, by decide⟩]⟩
      ⟨⟨"d".toList, by decide⟩, some ⟨"e".toList, by decide⟩, by decide⟩
      [⟨⟨"c".toList, by decide⟩, none, by simp⟩],
    .modules ⟨⟨⟨"x".toList, by decide⟩, []⟩, none⟩ []]

def mixedUsed : List (Option Text × Text) :=
  [(none, "sys.path as p".toList), (some "a.b".toList, "c".toList)]

theorem fixCode_removes_unused_imports_mixed :
    render mixedImports =
        "import os, sys.path as p\nfrom a.b import d as e, c\nimport x\n".toList ∧
      ∃ left, (pairs left).Perm mixedUsed ∧ ∀ rounds, 3 ≤ rounds →
        (fixCode { removeAllUnusedImports := true } (fun _ => readReport mixedUsed.contains) rounds
          (render mixedImports)).outcome = .done (render left) := by
  have hused : (pairs mixedImports).filter mixedUsed.contains = mixedUsed := by decide +kernel
  have hcheck (stmts : List Stmt) : (readReport mixedUsed.contains (render stmts)).Perm
      (report ModuleClause.text mixedUsed.contains stmts) := by
    rw [readReport_render]
  have hfixed : ∃ left, (pairs left).Perm ((pairs mixedImports).filter mixedUsed.contains) ∧
      ∀ rounds, 3 ≤ rounds → (fixCode { removeAllUnusedImports := true }
        (fun _ => readReport mixedUsed.contains) rounds (render mixedImports)).outcome =
          .done (render left) :=
    fixCode_removes_unused_imports (fun _ => Or.inl rfl) (fun _ => hcheck) rfl mixedImports
  rw [hused] at hfixed
  exact ⟨by decide +kernel, hfixed⟩

end Pruner.Import
