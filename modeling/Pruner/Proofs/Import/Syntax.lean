import Pruner.Diagnostic
import Pruner.Syntax.Lex
import Pruner.Proofs.Rule.Import

namespace Pruner.Import

open Pruner.Text Pruner.Line

/-- Letters, digits and the underscore of ASCII. -/
def isNameChar (c : Char) : Bool :=
  c.toNat < 128 && isWord c

def isName (t : Text) : Bool :=
  t.head?.any isIdentifierStart && t.all isNameChar && !(Syntax.keywords.map String.toList).contains t

/-- An ASCII identifier that is no keyword. -/
structure Name where
  text : Text
  valid : isName text = true

/-- Names with points between them. -/
structure Path where
  first : Name
  rest : List Name := []

def Path.text (p : Path) : Text :=
  join ['.'] ((p.first :: p.rest).map Name.text)

/-- How the name under which something is imported is written. -/
def asText : Option Name → Text
  | none => []
  | some n => " as ".toList ++ n.text

/-- A module that is imported, perhaps under another name. -/
structure ModuleClause where
  path : Path
  newName? : Option Name := none

def ModuleClause.text (c : ModuleClause) : Text :=
  c.path.text ++ asText c.newName?

/-- A name that is imported from a module, perhaps under another name. -/
structure NameClause where
  name : Name
  newName? : Option Name := none
  different : ∀ n ∈ newName?, n.text ≠ name.text

def NameClause.text (c : NameClause) : Text :=
  c.name.text ++ asText c.newName?

inductive Stmt
  | modules (first : ModuleClause) (rest : List ModuleClause)
  | names (source : Path) (first : NameClause) (rest : List NameClause)

namespace Stmt

/-- The module that names are imported from. -/
def source? : Stmt → Option Text
  | modules _ _ => none
  | names source _ _ => some source.text

def clauses : Stmt → List Text
  | modules first rest => (first :: rest).map ModuleClause.text
  | names _ first rest => (first :: rest).map NameClause.text

/-- What stands before the word `import`. -/
def before (s : Stmt) : Text :=
  match s.source? with
  | none => []
  | some source => "from ".toList ++ source ++ [' ']

def line (s : Stmt) : Text :=
  s.before ++ "import ".toList ++ join ", ".toList s.clauses ++ ['\n']

/-- What a statement imports: modules and clauses. -/
def pairs (s : Stmt) : List (Option Text × Text) :=
  s.clauses.map fun c => (s.source?, c)

/-- The names under which the unused clauses of a statement are reported. -/
def reported (shown : ModuleClause → Text) (used : Option Text × Text → Bool) : Stmt → List Text
  | modules first rest => ((first :: rest).filter fun c => !used (none, c.text)).map shown
  | names source first rest =>
    ((first :: rest).filter fun c => !used (some source.text, c.text)).map fun c =>
      source.text ++ ['.'] ++ c.text

end Stmt

/-- A source that consists of the given statements. -/
def render (stmts : List Stmt) : Text :=
  (stmts.map Stmt.line).flatten

def pairs (stmts : List Stmt) : List (Option Text × Text) :=
  stmts.flatMap Stmt.pairs

/-- One diagnostic for each clause that is not used, on the line of its statement. -/
def report (shown : ModuleClause → Text) (used : Option Text × Text → Bool) (stmts : List Stmt) :
    List Diagnostic :=
  (stmts.zipIdx 1).flatMap fun (s, number) =>
    (s.reported shown used).map fun name => ⟨number, .unusedImport name⟩

theorem Name.ne_nil (n : Name) : n.text ≠ [] := by
  intro hnil
  have hvalid := n.valid
  simp [isName, hnil] at hvalid

theorem Name.nameChar (n : Name) {c : Char} (hc : c ∈ n.text) : isNameChar c = true := by
  have hvalid := n.valid
  rw [isName, Bool.and_eq_true, Bool.and_eq_true] at hvalid
  exact List.all_eq_true.mp hvalid.1.2 c hc

theorem Name.ne_import (n : Name) : n.text ≠ importWord := by
  intro heq
  have hvalid := n.valid
  rw [heq] at hvalid
  revert hvalid
  decide

theorem isWord_of_isNameChar {c : Char} (h : isNameChar c = true) : isWord c = true :=
  (Bool.and_eq_true_iff.mp h).2

theorem isBlank_of_isNameChar {c : Char} (h : isNameChar c = true) : isBlank c = false := by
  by_contra hblank
  rw [Bool.not_eq_false] at hblank
  have hword := isWord_of_isNameChar h
  rw [isWord_eq_false_of_isBlank hblank] at hword
  simp at hword

/-- Characters of clauses. -/
def isClauseChar (c : Char) : Bool :=
  isNameChar c || c == '.' || c == ' '

/-- Characters of lines of imports, without the line feed. -/
def isLineChar (c : Char) : Bool :=
  isClauseChar c || c == ','

theorem Path.chars (p : Path) {c : Char} (hc : c ∈ p.text) : isNameChar c = true ∨ c = '.' := by
  rcases mem_of_mem_join hc with hpoint | ⟨x, hx, hc⟩
  · exact Or.inr (List.mem_singleton.mp hpoint)
  · obtain ⟨n, -, rfl⟩ := List.mem_map.mp hx
    exact Or.inl (n.nameChar hc)

theorem Path.ne_nil (p : Path) : p.text ≠ [] := by
  refine join_ne_nil (by simp) (fun x hx => ?_) ['.']
  obtain ⟨n, -, rfl⟩ := List.mem_map.mp hx
  exact n.ne_nil

theorem Path.no_blank (p : Path) {c : Char} (hc : c ∈ p.text) : isBlank c = false := by
  rcases p.chars hc with hname | rfl
  · exact isBlank_of_isNameChar hname
  · decide

theorem solid_asText {t : Text} (hne : t ≠ []) (ht : ∀ c ∈ t, isBlank c = false)
    (newName? : Option Name) : Solid (t ++ asText newName?) := by
  constructor
  · rw [List.head?_append_of_ne_nil _ hne]
    exact fun c hc => ht c (List.mem_of_head? hc)
  · cases newName? with
    | none =>
      rw [asText, List.append_nil]
      exact fun c hc => ht c (List.mem_of_getLast? hc)
    | some n =>
      rw [asText, ← List.append_assoc, List.getLast?_append_of_ne_nil _ n.ne_nil]
      exact fun c hc => isBlank_of_isNameChar (n.nameChar (List.mem_of_getLast? hc))

theorem asText_chars {newName? : Option Name} {c : Char} (hc : c ∈ asText newName?) :
    isNameChar c = true ∨ c = ' ' := by
  cases newName? with
  | none => simp [asText] at hc
  | some n =>
    rw [asText, List.mem_append] at hc
    rcases hc with hc | hc
    · have hall : " as ".toList.all (fun d => isNameChar d || d == ' ') = true := by decide
      simpa using List.all_eq_true.mp hall c hc
    · exact Or.inl (n.nameChar hc)

theorem ModuleClause.chars (m : ModuleClause) {c : Char} (hc : c ∈ m.text) :
    isClauseChar c = true := by
  rw [ModuleClause.text, List.mem_append] at hc
  simp only [isClauseChar, Bool.or_eq_true, beq_iff_eq]
  rcases hc with hc | hc
  · exact Or.inl (m.path.chars hc)
  · rcases asText_chars hc with hname | hspace
    · exact Or.inl (Or.inl hname)
    · exact Or.inr hspace

theorem NameClause.chars (n : NameClause) {c : Char} (hc : c ∈ n.text) :
    isNameChar c = true ∨ c = ' ' := by
  rw [NameClause.text, List.mem_append] at hc
  rcases hc with hc | hc
  · exact Or.inl (n.name.nameChar hc)
  · exact asText_chars hc

theorem NameClause.no_point (n : NameClause) : '.' ∉ n.text := by
  intro hc
  have hchars := n.chars hc
  revert hchars
  decide

theorem isClause_of_chars {t : Text} (hne : t ≠ []) (hsolid : Solid t)
    (h : ∀ c ∈ t, isClauseChar c = true) : IsClause t := by
  refine ⟨hne, hsolid, fun hmem => ?_⟩
  have hcomma := h ',' hmem
  revert hcomma
  decide

namespace Stmt

theorem clauses_ne_nil (s : Stmt) : s.clauses ≠ [] := by
  cases s <;> simp [clauses]

theorem clause_chars (s : Stmt) {t : Text} (ht : t ∈ s.clauses) {c : Char} (hc : c ∈ t) :
    isClauseChar c = true := by
  cases s with
  | modules first rest =>
    obtain ⟨m, -, rfl⟩ := List.mem_map.mp ht
    exact m.chars hc
  | names source first rest =>
    obtain ⟨n, -, rfl⟩ := List.mem_map.mp ht
    simp only [isClauseChar, Bool.or_eq_true, beq_iff_eq]
    rcases n.chars hc with hname | hspace
    · exact Or.inl (Or.inl hname)
    · exact Or.inr hspace

theorem isClause (s : Stmt) {t : Text} (ht : t ∈ s.clauses) : IsClause t := by
  have hchars : ∀ c ∈ t, isClauseChar c = true := fun c hc => s.clause_chars ht hc
  cases s with
  | modules first rest =>
    obtain ⟨m, -, rfl⟩ := List.mem_map.mp ht
    refine isClause_of_chars ?_ (solid_asText m.path.ne_nil (fun c => m.path.no_blank) _) hchars
    simp [ModuleClause.text, m.path.ne_nil]
  | names source first rest =>
    obtain ⟨n, -, rfl⟩ := List.mem_map.mp ht
    refine isClause_of_chars ?_ (solid_asText n.name.ne_nil
      (fun c hc => isBlank_of_isNameChar (n.name.nameChar hc)) _) hchars
    simp [NameClause.text, n.name.ne_nil]

end Stmt

end Pruner.Import
