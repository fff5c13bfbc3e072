import Pruner.Proofs.Import.Syntax
import Pruner.Proofs.Rule.FlatLines

namespace Pruner.Import

open Pruner.Text Pruner.Line Pruner.Token

theorem isBlank_newline : ∀ c ∈ ['\n'], isBlank c = true := by
  intro c hc
  rw [List.mem_singleton.mp hc]
  rfl

namespace Stmt

/-- A line without its line feed. -/
def body (s : Stmt) : Text :=
  s.before ++ "import ".toList ++ join ", ".toList s.clauses

theorem line_eq (s : Stmt) : s.line = s.body ++ ['\n'] :=
  rfl

/-- What stands after the word `import`. -/
def after (s : Stmt) : Text :=
  ' ' :: join ", ".toList s.clauses ++ ['\n']

theorem line_eq_cut (s : Stmt) : s.line = s.before ++ (importWord ++ s.after) := by
  have hword : "import ".toList = importWord ++ [' '] := by decide
  rw [line, after, hword]
  simp

theorem before_chars (s : Stmt) {c : Char} (hc : c ∈ s.before) : isClauseChar c = true := by
  cases s with
  | modules first rest => simp [before, source?] at hc
  | names source first rest =>
    simp only [before, source?, List.mem_append, List.mem_singleton] at hc
    rcases hc with (hc | hc) | rfl
    · have hall : "from ".toList.all isClauseChar = true := by decide
      exact List.all_eq_true.mp hall c hc
    · simp only [isClauseChar, Bool.or_eq_true, beq_iff_eq]
      exact Or.inl (source.chars hc)
    · decide

theorem body_chars (s : Stmt) {c : Char} (hc : c ∈ s.body) : isLineChar c = true := by
  rw [body, List.mem_append, List.mem_append] at hc
  rcases hc with (hc | hc) | hc
  · simp [isLineChar, s.before_chars hc]
  · have hall : "import ".toList.all isLineChar = true := by decide
    exact List.all_eq_true.mp hall c hc
  · rcases mem_of_mem_join hc with hc | ⟨t, ht, hc⟩
    · have hall : ", ".toList.all isLineChar = true := by decide
      exact List.all_eq_true.mp hall c hc
    · simp [isLineChar, s.clause_chars ht hc]

theorem not_mem_body (s : Stmt) {c : Char} (hc : isLineChar c = false) : c ∉ s.body := by
  intro hmem
  simp [s.body_chars hmem] at hc

theorem not_mem_line (s : Stmt) {c : Char} (hc : isLineChar c = false) (hn : c ≠ '\n') :
    c ∉ s.line := by
  rw [s.line_eq, List.mem_append, List.mem_singleton, not_or]
  exact ⟨s.not_mem_body hc, hn⟩

theorem isLine_line (s : Stmt) : IsLine s.line :=
  isLine_append (s.not_mem_body (by decide))

theorem endsLine_line (s : Stmt) : EndsLine s.line :=
  endsLine_append _

theorem line_head (s : Stmt) : ∃ c cs, s.line = c :: cs ∧ isBlank c = false ∧ c ∈ ['i', 'f'] := by
  cases s with
  | modules first rest => exact ⟨'i', _, rfl, by decide, by decide⟩
  | names source first rest => exact ⟨'f', _, rfl, by decide, by decide⟩

theorem flat_line (s : Stmt) : Flat s.line := by
  obtain ⟨c, cs, hline, hblank, hc⟩ := s.line_head
  refine ⟨⟨c, by simp [hline], hblank, ?_⟩, fun c hc => ?_⟩
  · rintro rfl
    simp at hc
  rw [s.line_eq, List.mem_append, List.mem_singleton] at hc
  rcases hc with hc | rfl
  · have hnot : c ∉ ['\'', '"', '\\', '(', ')', '[', ']', '\x7b', '\x7d'] :=
      not_mem_of_all (s.body_chars hc) (by decide)
    simpa [isPlain] using hnot
  · decide

theorem clauses_solid (s : Stmt) : Solid (join ", ".toList s.clauses) :=
  solid_join (fun _ ht => s.isClause ht) _

theorem join_clauses_ne_nil (s : Stmt) : join ", ".toList s.clauses ≠ [] :=
  join_ne_nil s.clauses_ne_nil (fun _ ht => (s.isClause ht).ne_nil) _

theorem ending_line (s : Stmt) : ending s.line = ['\n'] := by
  refine ending_append ?_ isBlank_newline
  rw [List.getLast?_append_of_ne_nil _ s.join_clauses_ne_nil]
  exact s.clauses_solid.last

theorem passFor_line (s : Stmt) : passFor s.line = "pass\n".toList := by
  have hindent : indentation s.line = [] := by
    obtain ⟨c, cs, hline, hblank, -⟩ := s.line_head
    rw [indentation, hline, List.takeWhile_cons, hblank]
    simp
  rw [passFor, hindent, s.ending_line]
  decide

theorem trim_ne_pass (s : Stmt) : trim s.line ≠ passWord := by
  obtain ⟨c, cs, hline, hblank, hc⟩ := s.line_head
  obtain ⟨rest, htrim⟩ := trim_cons hblank cs
  rw [hline, htrim]
  intro hpass
  obtain rfl : c = 'p' := (List.cons.inj hpass).1
  simp at hc

/-- The clauses are read back, with or without the line feed. -/
theorem trim_after (s : Stmt) : trim s.after = join ", ".toList s.clauses :=
  trim_append (a := [' ']) (by simp [isBlank]) isBlank_newline s.clauses_solid

theorem clauses_of_after (s : Stmt) : (commaPieces s.after).map trim = s.clauses := by
  rw [← map_trim_commaPieces_trim, s.trim_after]
  exact map_trim_commaPieces_join s.clauses_ne_nil fun _ ht => s.isClause ht

end Stmt

/-- No part of a path is taken for the word `import`. -/
theorem Path.cut (p : Path) (t : Text) :
    cutAtWord? importWord false (p.text ++ ' ' :: t) =
      (cutAtWord? importWord false t).map fun (before, after) => (p.text ++ ' ' :: before, after) := by
  obtain ⟨first, rest⟩ := p
  have hother (n : Name) (t : Text) {c : Char} (hc : isWord c = false) :=
    cutAtWord?_other (t := t) importWord_isWord (by decide)
      (fun _ hd => isWord_of_isNameChar (n.nameChar hd)) n.ne_nil n.ne_import hc
  induction rest generalizing first with
  | nil => exact hother first t (by decide)
  | cons second rest ih =>
    have htext : Path.text ⟨first, second :: rest⟩ =
        first.text ++ '.' :: Path.text ⟨second, rest⟩ := by
      simp [Path.text, join]
    rw [htext, List.append_assoc, List.cons_append, hother first _ (by decide), ih second,
      Option.map_map]
    congr 1
    funext cut
    simp

theorem Stmt.cut (s : Stmt) : cutAtWord? importWord false s.line = some (s.before, s.after) := by
  have hhere : cutAtWord? importWord false (importWord ++ s.after) = some ([], s.after) :=
    cutAtWord?_here (by decide) (show isWord ' ' = false by decide)
  rw [s.line_eq_cut]
  cases s with
  | modules first rest => exact hhere
  | names source first rest =>
    have hbefore : (Stmt.names source first rest).before = fromWord ++ ' ' :: (source.text ++ [' ']) := by
      rfl
    rw [hbefore]
    simp only [List.append_assoc, List.cons_append, List.nil_append]
    rw [cutAtWord?_from (by decide), source.cut, hhere]
    rfl

theorem Path.moduleAfterFrom? (p : Path) :
    moduleAfterFrom? (fromWord ++ ' ' :: (p.text ++ [' '])) = some p.text := by
  obtain ⟨c, cs, htext⟩ := List.exists_cons_of_ne_nil p.ne_nil
  have hblank : isBlank c = false := p.no_blank (by simp [htext])
  have hspace : c ≠ ' ' := by
    rintro rfl
    simp [isBlank] at hblank
  have hrun : ((' ' :: (p.text ++ [' '])).takeWhile isBlank).length = 1 := by
    have hfirst : isBlank ' ' = true := rfl
    simp [htext, hblank, hfirst]
  have hpath : (p.text ++ [' ']).takeWhile (· != ' ') = p.text := by
    rw [List.takeWhile_append_of_pos fun d hd => ?_]
    · simp
    · have hd := p.no_blank hd
      rw [bne_iff_ne]
      rintro rfl
      simp [isBlank] at hd
  rw [Import.moduleAfterFrom?, if_pos (by simp [startsWith]), List.drop_left]
  dsimp only
  have hstarts : (List.range 1).reverse.map (· + 1) = [1] := rfl
  have hfind : ([1].find? fun n =>
      ((' ' :: (p.text ++ [' '])).drop n).head?.any (· != ' ')) = some 1 := by
    simp [htext, hspace]
  rw [hrun, hstarts, hfind]
  exact congrArg some hpath

/-- The module is found between `from` and `import`. -/
theorem baseModule?_before {s : Stmt} {source : Text} (h : s.source? = some source) :
    baseModule? false s.before = some source := by
  cases s with
  | modules first rest => simp [Stmt.source?] at h
  | names path first rest =>
    obtain rfl : path.text = source := by simpa [Stmt.source?] using h
    have hbefore : (Stmt.names path first rest).before =
        'f' :: ("rom ".toList ++ (path.text ++ [' '])) := rfl
    have hmodule : moduleAfterFrom? ('f' :: ("rom ".toList ++ (path.text ++ [' ']))) =
        some path.text := path.moduleAfterFrom?
    rw [hbefore, baseModule?, if_neg (by simp), hmodule]

end Pruner.Import
