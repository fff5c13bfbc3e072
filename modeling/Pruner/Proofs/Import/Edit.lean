import Pruner.Proofs.Import.Line
import Mathlib.Data.List.Perm.Basic

namespace Pruner.Import

open Pruner.Text Pruner.Line Pruner.Token

/-- What one round makes of a statement. A statement that imports several modules is first split;
the next round sees its clauses on lines of their own. -/
inductive Pruned (used : Option Text × Text → Bool) (s : Stmt) : List Stmt → Prop
  | kept (h : ∀ p ∈ s.pairs, used p = true) : Pruned used s [s]
  | reduced {part : List Stmt} (h : (pairs part).Perm (s.pairs.filter used))
      (some_unused : ∃ p ∈ s.pairs, used p = false) : Pruned used s part
  | split {part : List Stmt} (h : (pairs part).Perm s.pairs)
      (single : ∀ t ∈ part, t.pairs.length = 1) (many : 1 < s.pairs.length)
      (some_unused : ∃ p ∈ s.pairs, used p = false) : Pruned used s part

namespace Stmt

theorem contains_line (s : Stmt) {c : Char} (hc : isLineChar c = false) (hn : c ≠ '\n') :
    s.line.contains c = false := by
  rw [List.contains_eq_mem, decide_eq_false_iff_not]
  exact s.not_mem_line hc hn

theorem trimLeft_line (s : Stmt) : trimLeft s.line = s.line := by
  obtain ⟨c, cs, hline, hblank, -⟩ := s.line_head
  rw [hline]
  exact trimLeft_eq_self (by simpa using hblank)

theorem hasForbidden_line (s : Stmt) : hasForbidden s.line = false := by
  rw [hasForbidden, s.contains_line (by decide) (by decide), s.contains_line (by decide) (by decide),
    s.contains_line (by decide) (by decide), s.contains_line (by decide) (by decide)]
  rfl

theorem not_partial (s : Stmt) {previous : Text} (h : isJoined previous = false) :
    isPartialImport s.line previous = false := by
  have hscan : (scan s.line).error = none := by
    rw [scan, s.isLine_line.lines_eq]
    exact error_flat (by simpa using s.flat_line) 1 []
  have hhead : startsWith ['>'] s.line = false := by
    obtain ⟨c, cs, hline, -, hc⟩ := s.line_head
    rw [hline, startsWith]
    rcases List.mem_pair.mp hc with rfl | rfl <;> rfl
  rw [isPartialImport, isPartial, s.trimLeft_line, hhead, hscan, h,
    s.contains_line (c := '(') (by decide) (by decide),
    s.contains_line (c := ')') (by decide) (by decide),
    s.contains_line (c := '\\') (by decide) (by decide),
    s.contains_line (c := ':') (by decide) (by decide),
    s.contains_line (c := ';') (by decide) (by decide)]
  rfl

theorem isFrom_line (s : Stmt) : isFrom s.line = s.source?.isSome := by
  rw [isFrom, s.trimLeft_line]
  cases s <;> rfl

theorem words_line (s : Stmt) : ∃ first second rest, words s.line = first :: second :: rest := by
  have hspace : isBlank ' ' = true := rfl
  have hword (w : Text) (hne : w ≠ []) (hw : w.all (!isBlank ·) = true) : words w = [w] :=
    words_of_no_blank hne fun _ => isBlank_eq_false_of_all hw
  cases s with
  | modules first rest =>
    have hclauses : words (join ", ".toList (modules first rest).clauses ++ ['\n']) ≠ [] := by
      obtain ⟨c, cs, hjoin⟩ := List.exists_cons_of_ne_nil (modules first rest).join_clauses_ne_nil
      have hvisible := (modules first rest).clauses_solid.head c (by rw [hjoin]; rfl)
      exact words_ne_nil (c := c) (by rw [hjoin]; simp) hvisible
    obtain ⟨w, ws, hws⟩ := List.exists_cons_of_ne_nil hclauses
    refine ⟨importWord, w, ws, ?_⟩
    rw [line_eq_cut]
    refine (words_append_blank hspace importWord _).trans ?_
    rw [hword importWord (by decide) (by decide)]
    exact congrArg (importWord :: ·) hws
  | names source first rest =>
    have hline : (names source first rest).line =
        fromWord ++ ' ' :: (source.text ++ ' ' :: (importWord ++ (names source first rest).after)) := by
      rw [line_eq_cut]
      simp [before, source?, fromWord]
    refine ⟨fromWord, source.text, words (importWord ++ (names source first rest).after), ?_⟩
    rw [hline, words_append_blank hspace, words_append_blank hspace,
      hword fromWord (by decide) (by decide),
      words_of_no_blank source.ne_nil fun _ => source.no_blank]
    rfl

theorem package_line (s : Stmt) : ∃ name, package s.line = .ok name := by
  obtain ⟨first, second, rest, hwords⟩ := s.words_line
  rw [package, s.hasForbidden_line, if_neg (by simp), hwords]
  dsimp only
  split <;> exact ⟨_, rfl⟩

theorem contains_comma (s : Stmt) : s.line.contains ',' = decide (1 < s.clauses.length) := by
  have hcomma (t : Text) (ht : ∀ c ∈ t, isClauseChar c = true) : ',' ∉ t := by
    intro hmem
    have := ht ',' hmem
    revert this
    decide
  rw [List.contains_eq_mem, decide_eq_decide, line]
  obtain ⟨t, rest, hclauses⟩ := List.exists_cons_of_ne_nil s.clauses_ne_nil
  have ht : ',' ∉ t := (s.isClause (by simp [hclauses])).no_comma
  cases rest with
  | nil => simp [hclauses, join, hcomma s.before fun _ => s.before_chars, ht]
  | cons u rest => simp [hclauses, join]

/-- The three things that can happen to a statement with an unused clause. -/
theorem filterUnused_line (s : Stmt) (unused allowed : List Text) {previous : Text}
    (h : isJoined previous = false) :
    filterUnused s.line unused true allowed previous =
      if s.clauses.length ≤ 1 then .ok "pass\n".toList
      else if s.source?.isSome then filterFrom s.line unused else breakUp s.line := by
  obtain ⟨name, hpackage⟩ := s.package_line
  rw [filterUnused, s.not_partial h, if_neg (by simp), s.contains_comma, s.isFrom_line, hpackage,
    s.passFor_line]
  by_cases hmany : 1 < s.clauses.length
  · rw [if_neg (show ¬s.clauses.length ≤ 1 by omega)]
    cases s.source?.isSome <;> simp [hmany, bind, Except.bind]
  · rw [if_pos (show s.clauses.length ≤ 1 by omega)]
    simp [hmany, bind, Except.bind]

/-- A statement that imports modules is split into lines of one clause each. -/
theorem breakUp_line {first : ModuleClause} {rest : List ModuleClause} :
    breakUp (modules first rest).line =
      .ok ((sort (commaPieces (modules first rest).after)).flatMap fun x =>
        "import ".toList ++ trim x ++ ['\n']) := by
  rw [breakUp, hasForbidden_line, contains_line _ (by decide) (by decide), isFrom_line, ending_line,
    cut]
  rfl

/-- A statement that imports names keeps those that are not reported. -/
theorem filterFrom_line {source : Path} {first : NameClause} {rest : List NameClause}
    (unused : List Text) :
    filterFrom (names source first rest).line unused = .ok (
      let kept := (names source first rest).clauses.filter fun c =>
        !unused.contains (source.text ++ ['.'] ++ c)
      if kept = [] then "pass\n".toList
      else (names source first rest).before ++ "import ".toList ++ join ", ".toList (sort kept) ++
        ['\n']) := by
  have hkept : keptNames source.text (names source first rest).after unused =
      (names source first rest).clauses.filter fun c =>
        !unused.contains (source.text ++ ['.'] ++ c) := by
    have hclauses := map_trim_commaPieces_join (names source first rest).clauses_ne_nil
      fun _ ht => (names source first rest).isClause ht
    have herase : ∀ t ∈ (names source first rest).clauses,
        Text.erase (source.text ++ ['.']) t = t := by
      intro t ht
      obtain ⟨n, -, rfl⟩ := List.mem_map.mp ht
      exact erase_of_not_mem (c := '.') (by simp) n.no_point
    rw [keptNames, trim_after]
    conv_rhs => rw [← hclauses, List.filter_map]
    refine List.map_congr_left fun x hx => herase (trim x) ?_
    rw [← hclauses]
    exact List.mem_map_of_mem (List.mem_filter.mp hx).1
  rw [filterFrom_of_cut unused (cut _) (baseModule?_before rfl), hkept, passFor_line, withNames,
    ending_line]

end Stmt

theorem exists_perm_map {α β : Type} {f : α → β} {ys : List β} {xs : List α}
    (h : ys.Perm (xs.map f)) : ∃ zs : List α, zs.Perm xs ∧ zs.map f = ys := by
  have hmap : List.Forall₂ (fun y x => y = f x) (xs.map f) xs := by
    rw [List.forall₂_map_left_iff]
    exact List.forall₂_same.mpr fun _ _ => rfl
  obtain ⟨zs, hzs, hperm⟩ := List.perm_comp_forall₂ h hmap
  refine ⟨zs, hperm, ?_⟩
  rw [← List.forall₂_eq_eq_eq, List.forall₂_map_left_iff]
  exact hzs.flip.imp fun _ _ heq => heq.symm

def passLine : Text := "pass\n".toList

/-- The lines that are written for a part of a statement: a `pass` if nothing is left. -/
def Written (part : List Stmt) (ls : List Text) : Prop :=
  part = [] ∧ ls = [passLine] ∨ ls = part.map Stmt.line

theorem Stmt.pairs_filter (s : Stmt) (used : Option Text × Text → Bool) :
    s.pairs.filter used =
      (s.clauses.filter fun c => used (s.source?, c)).map fun c => (s.source?, c) :=
  List.filter_map ..

theorem pairs_singles (cs : List ModuleClause) :
    pairs (cs.map (Stmt.modules · [])) = cs.map fun c => (none, c.text) := by
  induction cs with
  | nil => rfl
  | cons c cs ih => exact congrArg ((none, c.text) :: ·) ih

theorem lines_singles (cs : List ModuleClause) :
    ((cs.map (Stmt.modules · [])).map Stmt.line).flatten =
      (cs.map ModuleClause.text).flatMap fun t => "import ".toList ++ t ++ ['\n'] := by
  induction cs with
  | nil => rfl
  | cons c cs ih => exact congrArg ((Stmt.modules c []).line ++ ·) ih

section

variable {used : Option Text × Text → Bool}

theorem exists_pruned_single {s : Stmt} (hsingle : s.clauses.length ≤ 1)
    (hunused : ∃ p ∈ s.pairs, used p = false) :
    ∃ part ls, Pruned used s part ∧ passLine = ls.flatten ∧ Written part ls := by
  refine ⟨[], [passLine], .reduced ?_ hunused, by simp, Or.inl ⟨rfl, rfl⟩⟩
  obtain ⟨p, hp, hfalse⟩ := hunused
  obtain ⟨c, hc⟩ : ∃ c, s.clauses = [c] := by
    have hpos := List.length_pos_of_ne_nil s.clauses_ne_nil
    exact List.length_eq_one_iff.mp (by omega)
  obtain rfl : p = (s.source?, c) := by simpa [Stmt.pairs, hc] using hp
  simp [pairs, Stmt.pairs_filter, hc, hfalse]

theorem exists_pruned_modules {first : ModuleClause} {rest : List ModuleClause}
    (hmany : 1 < (Stmt.modules first rest).clauses.length)
    (hunused : ∃ p ∈ (Stmt.modules first rest).pairs, used p = false) :
    ∃ part ls, Pruned used (.modules first rest) part ∧
      breakUp (Stmt.modules first rest).line = .ok ls.flatten ∧ Written part ls := by
  have hperm : ((sort (commaPieces (Stmt.modules first rest).after)).map trim).Perm
      ((first :: rest).map ModuleClause.text) := by
    have hclauses := (Stmt.modules first rest).clauses_of_after
    rw [Stmt.clauses] at hclauses
    rw [← hclauses]
    exact (sort_perm _).map trim
  obtain ⟨zs, hzs, hmap⟩ := exists_perm_map hperm
  refine ⟨zs.map (Stmt.modules · []), (zs.map (Stmt.modules · [])).map Stmt.line,
    .split ?_ ?_ (by simpa [Stmt.pairs] using hmany) hunused, ?_, Or.inr rfl⟩
  · have hpairs : (Stmt.modules first rest).pairs =
        (first :: rest).map fun c => (none, c.text) := List.map_map ..
    rw [pairs_singles, hpairs]
    exact hzs.map _
  · intro t ht
    obtain ⟨c, -, rfl⟩ := List.mem_map.mp ht
    rfl
  · rw [Stmt.breakUp_line, lines_singles, hmap, List.flatMap_map]

theorem exists_pruned_names {source : Path} {first : NameClause} {rest : List NameClause}
    {unused : List Text} (hunused : ∃ p ∈ (Stmt.names source first rest).pairs, used p = false)
    (hnames : ∀ c ∈ (Stmt.names source first rest).clauses,
      unused.contains (source.text ++ ['.'] ++ c) = !used (some source.text, c)) :
    ∃ part ls, Pruned used (.names source first rest) part ∧
      filterFrom (Stmt.names source first rest).line unused = .ok ls.flatten ∧ Written part ls := by
  have hkept : ((Stmt.names source first rest).clauses.filter fun c =>
      !unused.contains (source.text ++ ['.'] ++ c)) =
      ((first :: rest).filter fun c => used (some source.text, c.text)).map NameClause.text := by
    rw [List.filter_congr fun c hc => by rw [hnames c hc, Bool.not_not], Stmt.clauses,
      List.filter_map]
    rfl
  have hpairs : (Stmt.names source first rest).pairs.filter used =
      (((first :: rest).filter fun c => used (some source.text, c.text)).map NameClause.text).map
        fun c => (some source.text, c) := by
    rw [Stmt.pairs_filter, Stmt.clauses, List.filter_map]
    rfl
  rw [Stmt.filterFrom_line, hkept]
  dsimp only
  generalize (first :: rest).filter (fun c => used (some source.text, c.text)) = cs at hpairs
  split
  · rename_i hnil
    refine ⟨[], [passLine], .reduced ?_ hunused, by simp [passLine], Or.inl ⟨rfl, rfl⟩⟩
    rw [hpairs, hnil]
    exact List.Perm.nil
  · rename_i hne
    obtain ⟨zs, hzs, hmap⟩ := exists_perm_map (sort_perm (cs.map NameClause.text))
    obtain ⟨z, zs, rfl⟩ : ∃ z zs', zs = z :: zs' := by
      refine List.exists_cons_of_ne_nil ?_
      rintro rfl
      obtain rfl := hzs.nil_eq
      exact hne rfl
    refine ⟨[.names source z zs], [(Stmt.names source z zs).line], .reduced ?_ hunused, ?_,
      Or.inr rfl⟩
    · rw [hpairs]
      have hpart : pairs [.names source z zs] =
          ((z :: zs).map NameClause.text).map fun c => (some source.text, c) := by
        simp [pairs, Stmt.pairs, Stmt.clauses, Stmt.source?]
      rw [hpart]
      exact (hzs.map _).map _
    · rw [← hmap]
      simp [Stmt.line, Stmt.before, Stmt.source?, Stmt.clauses]

/-- A statement with an unused clause is pruned, if the unused names are among those reported. -/
theorem exists_pruned (s : Stmt) {unused : List Text} (allowed : List Text) {previous : Text}
    (hprevious : isJoined previous = false) (hunused : ∃ p ∈ s.pairs, used p = false)
    (hnames : ∀ source ∈ s.source?, ∀ c ∈ s.clauses,
      unused.contains (source ++ ['.'] ++ c) = !used (some source, c)) :
    ∃ part ls, Pruned used s part ∧
      filterUnused s.line unused true allowed previous = .ok ls.flatten ∧ Written part ls := by
  rw [s.filterUnused_line unused allowed hprevious]
  by_cases hsingle : s.clauses.length ≤ 1
  · rw [if_pos hsingle]
    obtain ⟨part, ls, hpruned, hpass, hwritten⟩ := exists_pruned_single hsingle hunused
    exact ⟨part, ls, hpruned, congrArg Except.ok hpass, hwritten⟩
  · rw [if_neg hsingle]
    cases s with
    | modules first rest => exact exists_pruned_modules (by omega) hunused
    | names source first rest => exact exists_pruned_names hunused (hnames source.text rfl)

end

end Pruner.Import
