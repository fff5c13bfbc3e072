import Pruner.Proofs.Token.Tail
import Pruner.Proofs.Text.Words
import Pruner.Proofs.Fix.DiagnosticOrder
import Pruner.Proofs.Fix.Run
import Pruner.Proofs.Rule.FlatLines
import Pruner.Proofs.Rule.Packages
import Pruner.Command.Run

/-!
The packages of the command line are taken as they stand between the commas, while patterns to
exclude are trimmed and empty ones are left out. The two readings of one list give the same results
exactly if the list has no empty item and each item with blanks around it also counts without them.

Which packages are allowed shows only in lines that name them. A name without blanks, points and the
few characters that no single import may have can be named: the line that opens with it can be
completed, whatever strings and brackets the name opens.
-/
namespace Pruner.Import

open Pruner.Text Pruner.Line Pruner.Token

/-- The names that a package can have in an import that stands on a line of its own. -/
def IsPackageName (p : Text) : Prop :=
  ∀ c ∈ p, isBlank c = false ∧ c ∉ ['.', '\\', '(', ')', ':', ';', '#']

instance (p : Text) : Decidable (IsPackageName p) :=
  decidable_of_iff
    (p.all (fun c => !isBlank c && !(['.', '\\', '(', ')', ':', ';', '#'].contains c)) = true)
    (by simp [IsPackageName])

/-- Two lists have the same package names. -/
def NameAlike (a b : List Text) : Prop :=
  ∀ p, IsPackageName p → (p ∈ a ↔ p ∈ b)

section Rule

variable {line previous p : Text}

theorem package_eq_some (h : package line = .ok (some p)) :
    ∃ word ∈ words line, p = word.takeWhile (· != '.') := by
  rw [package] at h
  split at h
  · simp at h
  · split at h
    · split at h
      · rename_i first second rest hwords
        rw [hwords]
        exact ⟨second, by simp, (Option.some.inj (Except.ok.inj h)).symm⟩
      · simp at h
    · simp at h

/-- The package that a line of its own is about has a package name. -/
theorem isPackageName_package (hpartial : isPartialImport line previous = false)
    (hhash : '#' ∉ line) (h : package line = .ok (some p)) : IsPackageName p := by
  obtain ⟨word, hword, rfl⟩ := package_eq_some h
  have hpiece : word ∈ pieces isBlank line := (List.mem_filter.mp hword).1
  intro c hc
  have hmem : c ∈ word := (List.takeWhile_sublist _).subset hc
  have hline : c ∈ line := (piece_sublist hpiece).subset hmem
  have hpoint : c ≠ '.' := by simpa using List.mem_takeWhile_imp hc
  refine ⟨not_mem_separator hpiece c hmem, fun hbad => ?_⟩
  simp only [isPartialImport, isPartial, Bool.or_eq_false_iff, List.contains_eq_mem,
    decide_eq_false_iff_not] at hpartial
  obtain ⟨⟨⟨hopen, hclose⟩, -⟩, ⟨⟨⟨hslash, hcolon⟩, hsemicolon⟩, -⟩, -⟩ := hpartial
  simp only [List.mem_cons, List.not_mem_nil, or_false] at hbad
  rcases hbad with rfl | rfl | rfl | rfl | rfl | rfl | rfl
  · exact hpoint rfl
  · exact hslash hline
  · exact hopen hline
  · exact hclose hline
  · exact hcolon hline
  · exact hsemicolon hline
  · exact hhash hline

/-- Of the packages that may be removed only those count that can be named. -/
theorem filterUnused_allowed_congr {allowed allowed' : List Text} (h : NameAlike allowed allowed')
    (hhash : '#' ∉ line) (unused : List Text) (removeAll : Bool) (previous : Text) :
    filterUnused line unused removeAll allowed previous =
      filterUnused line unused removeAll allowed' previous := by
  rw [filterUnused, filterUnused]
  cases hpartial : isPartialImport line previous with
  | true => rfl
  | false =>
    cases hpackage : package line with
    | error fault => rfl
    | ok found =>
      have hsame : found.any allowed.contains = found.any allowed'.contains := by
        cases found with
        | none => rfl
        | some p =>
          rw [Option.any_some, Option.any_some, Bool.eq_iff_iff, List.contains_iff_mem,
            List.contains_iff_mem]
          exact h p (isPackageName_package hpartial hhash hpackage)
      simp only [bind, Except.bind, hsame]

end Rule

section Lines

/-- An import of the package `p`. What stands behind the name is to close what the name opens. -/
def namingLine (p closers : Text) : Text :=
  ['f', 'r', 'o', 'm', ' '] ++ p ++ ' ' :: closers ++ [' ', 'x', '\n']

/-- A package's name, and quotes and brackets that close what it opens. -/
structure Completes (p closers : Text) : Prop where
  name : IsPackageName p
  ne_nil : p ≠ []
  no_comma : ',' ∉ p
  closing : ∀ c ∈ closers, isQuote c = true ∨ c = '[' ∨ c = ']'
  closed : (scanLine 1 [] 0 0 (['f', 'r', 'o', 'm', ' '] ++ p ++ ' ' :: closers)).2 = ⟨0, false, none⟩

variable {p closers : Text}

theorem inline_of_isPackageName (hp : IsPackageName p) : Inline p := by
  intro c hc hbad
  obtain ⟨hblank, hsafe⟩ := hp c hc
  simp only [List.mem_cons, List.not_mem_nil, or_false] at hbad
  rcases hbad with rfl | rfl | rfl | rfl
  · simp at hsafe
  · simp at hsafe
  · simp [isBlank] at hblank
  · simp [isBlank] at hblank

theorem inline_opening (hp : IsPackageName p) : Inline (['f', 'r', 'o', 'm', ' '] ++ p) := by
  have hfrom : Inline ['f', 'r', 'o', 'm', ' '] := by simp [Inline]
  exact hfrom.append (inline_of_isPackageName hp)

theorem exists_completes (hp : IsPackageName p) (hne : p ≠ []) (hcomma : ',' ∉ p) :
    ∃ closers, Completes p closers := by
  obtain ⟨closers, hclosers, hclosed⟩ := exists_completion 1 [] (inline_opening hp)
  exact ⟨closers, hp, hne, hcomma, hclosers, hclosed⟩

namespace Completes

theorem inline_body (h : Completes p closers) :
    Inline (['f', 'r', 'o', 'm', ' '] ++ p ++ ' ' :: closers) := by
  have hclosers : Inline (' ' :: closers) := by
    intro c hc hbad
    simp only [List.mem_cons, List.not_mem_nil, or_false] at hbad
    rcases List.mem_cons.mp hc with rfl | hc
    · simp at hbad
    · rcases h.closing c hc with hquote | rfl | rfl
      · rcases hbad with rfl | rfl | rfl | rfl <;> simp [isQuote] at hquote
      · simp at hbad
      · simp at hbad
  exact (inline_opening h.name).append hclosers

/-- The line up to its end. -/
theorem inline_line (h : Completes p closers) :
    Inline (['f', 'r', 'o', 'm', ' '] ++ p ++ ' ' :: closers ++ [' ', 'x']) := by
  have hend : Inline [' ', 'x'] := by simp [Inline]
  exact h.inline_body.append hend

theorem line_eq (p closers : Text) : namingLine p closers =
    ['f', 'r', 'o', 'm', ' '] ++ p ++ ' ' :: closers ++ [' ', 'x'] ++ ['\n'] := by
  simp [namingLine]

theorem isLine (h : Completes p closers) : IsLine (namingLine p closers) := by
  rw [line_eq]
  exact isLine_append (h.inline_line.not_mem (by simp))

theorem mem_line (h : Completes p closers) {c : Char} (hc : c ∈ namingLine p closers) :
    c ∈ p ∨ c ∈ ['f', 'r', 'o', 'm', ' ', 'x', '\n', '\'', '"', '[', ']'] := by
  simp only [namingLine, List.mem_append, List.mem_cons, List.not_mem_nil, or_false] at hc ⊢
  rcases hc with ((hc | hc) | rfl | hc) | hc
  · tauto
  · exact Or.inl hc
  · tauto
  · rcases h.closing c hc with hquote | rfl | rfl
    · simp only [isQuote, Bool.or_eq_true, beq_iff_eq] at hquote
      tauto
    · tauto
    · tauto
  · tauto

theorem contains_line (h : Completes p closers) {c : Char}
    (hc : c ∈ ['\\', '(', ')', ':', ';', '#', ',']) : (namingLine p closers).contains c = false := by
  rw [List.contains_eq_mem, decide_eq_false_iff_not]
  intro hmem
  rcases h.mem_line hmem with hname | hother
  · have hbad := (h.name c hname).2
    have hcomma := h.no_comma
    simp only [List.mem_cons, List.not_mem_nil, or_false] at hc hbad
    rcases hc with rfl | rfl | rfl | rfl | rfl | rfl | rfl
    all_goals first | exact hcomma hname | simp at hbad
  · revert hother
    simp only [List.mem_cons, List.not_mem_nil, or_false] at hc
    rcases hc with rfl | rfl | rfl | rfl | rfl | rfl | rfl <;> decide

/-- The line names its package. -/
theorem package_line (h : Completes p closers) : package (namingLine p closers) = .ok (some p) := by
  have hfrom : isFrom (namingLine p closers) = true := rfl
  have hwords : words (namingLine p closers) =
      ['f', 'r', 'o', 'm'] :: p :: words (' ' :: closers ++ [' ', 'x', '\n']) := by
    have hsplit : namingLine p closers =
        [] ++ ['f', 'r', 'o', 'm'] ++ ([' '] ++ p ++ (' ' :: closers ++ [' ', 'x', '\n'])) := by
      simp [namingLine]
    rw [hsplit, words_word_append (by simp) (by simp)
        (fun _ => isBlank_eq_false_of_all (by decide)) (by simp [isBlank]),
      words_word_append (by simp [isBlank]) h.ne_nil (fun c hc => (h.name c hc).1)
        (by simp [isBlank])]
  have hpoint : p.takeWhile (· != '.') = p := by
    rw [List.takeWhile_eq_self_iff]
    intro c hc
    have hbad := (h.name c hc).2
    simp only [List.mem_cons, not_or] at hbad
    simpa using hbad.1
  rw [package, hasForbidden, h.contains_line (by simp), h.contains_line (by simp),
    h.contains_line (by simp), h.contains_line (by simp), hfrom, hwords]
  simp [hpoint]

/-- The line is an import of its own. -/
theorem not_partial (h : Completes p closers) :
    isPartialImport (namingLine p closers) [] = false := by
  have hdetached : Detached [' ', 'x'] := by simp [Detached, isBlank]
  have hending : (scanLine 1 [] 0 0
      (['f', 'r', 'o', 'm', ' '] ++ p ++ ' ' :: closers ++ [' ', 'x'])).2 = ⟨0, false, none⟩ := by
    rw [scanLine_append h.inline_body hdetached (by simp) 0 (by simp [isQuote]), h.closed]
    rfl
  have herror : (scan (namingLine p closers)).error.isSome = false := by
    rw [← Bool.not_eq_true, line_eq, error_append_lineEnd h.inline_line (Or.inl rfl), hending]
    simp [Ending.isOpen]
  have harrow : startsWith ['>'] (trimLeft (namingLine p closers)) = false := rfl
  have hjoined : isJoined [] = false := rfl
  rw [isPartialImport, isPartial, h.contains_line (by simp), h.contains_line (by simp),
    h.contains_line (by simp), h.contains_line (by simp), h.contains_line (by simp), harrow, herror,
    hjoined]
  rfl

theorem filterUnused_line (h : Completes p closers) (unused allowed : List Text) :
    filterUnused (namingLine p closers) unused false allowed [] =
      .ok (if p ∈ allowed then passFor (namingLine p closers) else namingLine p closers) := by
  rw [filterUnused, h.not_partial, h.contains_line (by simp), h.package_line]
  by_cases hp : p ∈ allowed
  · simp [bind, Except.bind, hp]
  · simp [bind, Except.bind, hp]

theorem passFor_line (p closers : Text) :
    passFor (namingLine p closers) = ['p', 'a', 's', 's', '\n'] := by
  have hending : ending (namingLine p closers) = ['\n'] := by
    rw [line_eq]
    refine ending_append ?_ (by simp [isBlank])
    intro c hc
    rw [List.getLast?_append] at hc
    rw [← Option.some.inj hc]
    rfl
  have hindent : indentation (namingLine p closers) = [] := by
    rw [indentation]
    split <;> rfl
  rw [passFor, hending, hindent]
  rfl

end Completes

/-- A line of its own that is removed exactly if the package `p` may be. -/
structure Names (line p : Text) : Prop where
  isLine : IsLine line
  no_hash : '#' ∉ line
  starts : line.head? = some 'f'
  passFor_eq : passFor line = ['p', 'a', 's', 's', '\n']
  filterUnused_eq : ∀ unused allowed, filterUnused line unused false allowed [] =
    .ok (if p ∈ allowed then passFor line else line)

theorem Completes.names (h : Completes p closers) : Names (namingLine p closers) p where
  isLine := h.isLine
  no_hash := by
    have hhash := h.contains_line (c := '#') (by simp)
    rwa [List.contains_eq_mem, decide_eq_false_iff_not] at hhash
  starts := rfl
  passFor_eq := passFor_line p closers
  filterUnused_eq := h.filterUnused_line

/-- A relative import names no package. -/
theorem names_relative : Names "from . import x\n".toList [] where
  isLine := isLine_append (s := "from . import x".toList) (by decide)
  no_hash := by decide
  starts := by decide
  passFor_eq := by decide
  filterUnused_eq := by
    intro unused allowed
    have hpartial : isPartialImport "from . import x\n".toList [] = false := by decide
    have hcomma : "from . import x\n".toList.contains ',' = false := by decide
    have hpackage : package "from . import x\n".toList = .ok (some []) := by decide
    rw [filterUnused, hpartial, hcomma, hpackage]
    by_cases hnil : [] ∈ allowed
    · simp [bind, Except.bind, hnil]
    · simp [bind, Except.bind, hnil]

/-- Every package name can be named. -/
theorem exists_names (hp : IsPackageName p) (hcomma : ',' ∉ p) : ∃ line, Names line p := by
  by_cases hne : p = []
  · rw [hne]
    exact ⟨_, names_relative⟩
  · obtain ⟨closers, hclosers⟩ := exists_completes hp hne hcomma
    exact ⟨_, hclosers.names⟩

end Lines

end Pruner.Import

namespace Pruner.Fix

open Pruner.Text Pruner.Line Pruner.Import

section Congruence

variable {a b : List Text} {options : Options}

/-- The options with other packages besides the standard ones. -/
def withImports (options : Options) (names : List Text) : Options :=
  { options with additionalImports := names }

theorem effective_withImports (names : List Text) (source : Text) :
    effective (withImports options names) source = withImports (effective options source) names := by
  unfold effective
  split <;> rfl

theorem editLines_withImports (h : NameAlike (withImports options a).allowed
    (withImports options b).allowed) (m : Marks) (number : Nat) (previous : Text) (ls : List Text) :
    editLines (withImports options a) m number previous ls =
      editLines (withImports options b) m number previous ls := by
  induction ls generalizing number previous with
  | nil => rfl
  | cons line rest ih =>
    have hline : editLine (withImports options a) m number previous line =
        editLine (withImports options b) m number previous line := by
      rw [editLine, editLine]
      split
      · rfl
      · rename_i hhash
        rw [filterUnused_allowed_congr h (by simpa using hhash)]
        rfl
    rw [editLines, editLines, hline, ih]

theorem round_withImports (h : NameAlike (withImports options a).allowed
    (withImports options b).allowed) (ds : List Diagnostic) (source : Text) :
    round (withImports options a) ds source = round (withImports options b) ds source := by
  have hmarks : marks (withImports options a) source ds = marks (withImports options b) source ds :=
    rfl
  unfold round filterCode
  simp only [hmarks, editLines_withImports h]

theorem loop_withImports (h : NameAlike (withImports options a).allowed
    (withImports options b).allowed) (check : Nat → Text → List Diagnostic) (rounds index : Nat)
    (source : Text) :
    loop (withImports options a) check rounds index source =
      loop (withImports options b) check rounds index source := by
  induction rounds generalizing index source with
  | zero => rfl
  | succ rounds ih => simp only [loop_succ, round_withImports h, ih]

/-- Runs differ only in packages that can be named. -/
theorem fixCode_withImports (h : NameAlike (StandardModule.removable ++ a)
    (StandardModule.removable ++ b)) (options : Options) (check : Nat → Text → List Diagnostic)
    (rounds : Nat) (source : Text) :
    fixCode (withImports options a) check rounds source =
      fixCode (withImports options b) check rounds source := by
  unfold fixCode
  rw [effective_withImports, effective_withImports, loop_withImports h]

end Congruence

section Separation

variable {line p : Text}

/-- A check that reports the line as an unused import, and nothing else. -/
def reportLine (line : Text) (_ : Nat) (t : Text) : List Diagnostic :=
  if t = line then [⟨1, .unusedImport ['x']⟩] else []

theorem round_names (h : Names line p) (names : List Text) :
    round (withImports {} names) (reportLine line 0 line) line =
      .ok (if p ∈ StandardModule.removable ++ names then [] else line) := by
  have hmarks : marks (withImports {} names) line [⟨1, .unusedImport ['x']⟩] =
      .ok ⟨[1], [(1, ['x'])], [], [], [], []⟩ := rfl
  have hedit : editLines (withImports {} names) ⟨[1], [(1, ['x'])], [], [], [], []⟩ 1 [] [line] =
      .ok [if p ∈ StandardModule.removable ++ names then passFor line else line] := by
    have hhash : line.contains '#' = false := by simpa using h.no_hash
    rw [editLines, editLine, hhash]
    exact bind_eq_ok.mpr ⟨_, h.filterUnused_eq _ _, bind_eq_ok.mpr ⟨[], rfl, rfl⟩⟩
  have hpass : UselessPass.filter ['p', 'a', 's', 's', '\n'] = [] := by decide
  have hkept : UselessPass.filter line = line := by
    apply UselessPass.filter_of_no_pass
    rw [h.isLine.lines_eq]
    intro l hl
    obtain ⟨rest, hrest⟩ := List.head?_eq_some_iff.mp h.starts
    obtain ⟨more, hmore⟩ := trim_cons (c := 'f') (by decide) rest
    rw [List.mem_singleton.mp hl, hrest, hmore]
    exact fun heq => absurd (List.cons.inj heq).1 (by decide)
  rw [reportLine, if_pos rfl, round_eq_ok]
  refine ⟨_, filterCode_eq_ok.mpr ⟨_, hmarks, by rw [h.isLine.lines_eq]; exact hedit⟩, ?_⟩
  rw [List.flatten_singleton, h.passFor_eq]
  split
  · exact hpass
  · exact hkept

/-- The outcome of a run shows whether the package may be removed. -/
theorem outcome_names (h : Names line p) (names : List Text) :
    (fixCode (withImports {} names) (reportLine line) 2 line).outcome =
      .done (if p ∈ StandardModule.removable ++ names then [] else line) := by
  have hne : line ≠ [] := by
    rintro rfl
    exact absurd h.starts (by simp)
  have hsource : effective (withImports {} names) line = withImports {} names :=
    effective_eq_of_not_variables rfl line
  apply outcome_of_two_rounds hne
  · rw [hsource]
    exact round_names h names
  · rw [hsource]
    split
    · rw [reportLine, if_neg hne.symm]
      rfl
    · rename_i hnot
      have hround := round_names h names
      rwa [if_neg hnot] at hround

/-- Two lists of packages give the same results exactly if they have the same package names. -/
theorem outcome_withImports_iff {a b : List Text} (hcomma : ∀ x ∈ a ++ b, ',' ∉ x) :
    (∀ options check rounds source, (fixCode (withImports options a) check rounds source).outcome =
      (fixCode (withImports options b) check rounds source).outcome) ↔
    NameAlike (StandardModule.removable ++ a) (StandardModule.removable ++ b) := by
  constructor
  · intro h p hp
    by_cases hstandard : p ∈ StandardModule.removable
    · exact iff_of_true (List.mem_append_left _ hstandard) (List.mem_append_left _ hstandard)
    · by_contra hdiffer
      have hlisted : p ∈ a ++ b := by
        by_contra hnone
        rw [List.mem_append, not_or] at hnone
        apply hdiffer
        rw [List.mem_append, List.mem_append]
        exact iff_of_false (not_or.mpr ⟨hstandard, hnone.1⟩) (not_or.mpr ⟨hstandard, hnone.2⟩)
      obtain ⟨line, hline⟩ := exists_names hp (hcomma p hlisted)
      have hsame := h {} (reportLine line) 2 line
      rw [outcome_names hline, outcome_names hline, Outcome.done.injEq] at hsame
      have hne : line ≠ [] := by
        rintro rfl
        exact absurd hline.starts (by simp)
      apply hdiffer
      by_cases ha : p ∈ StandardModule.removable ++ a
      · by_cases hb : p ∈ StandardModule.removable ++ b
        · exact iff_of_true ha hb
        · rw [if_pos ha, if_neg hb] at hsame
          exact absurd hsame.symm hne
      · by_cases hb : p ∈ StandardModule.removable ++ b
        · rw [if_neg ha, if_pos hb] at hsame
          exact absurd hsame hne
        · exact iff_of_false ha hb
  · intro h options check rounds source
    rw [fixCode_withImports h]

end Separation

end Pruner.Fix

namespace Pruner.Command

open Pruner.Text Pruner.Import Pruner.Fix

theorem mem_commaSeparated {list p : Text} :
    p ∈ commaSeparated list ↔ ∃ item ∈ commaPieces list, trim item = p ∧ p ≠ [] := by
  have hperm : commaSeparated list |>.Perm
      ((commaPieces list).map trim |>.filter (!·.isEmpty)).eraseDups := sort_perm _
  rw [hperm.mem_iff, List.mem_eraseDups, List.mem_filter, List.mem_map]
  constructor
  · rintro ⟨⟨item, hitem, rfl⟩, hne⟩
    exact ⟨item, hitem, rfl, by simpa using hne⟩
  · rintro ⟨item, hitem, rfl, hne⟩
    exact ⟨⟨item, hitem, rfl⟩, by simpa using hne⟩

/-- What stands between the commas, as it is or trimmed, has the same package names exactly if
nothing is empty and each item that is trimmed counts as well. -/
theorem nameAlike_commaSeparated_iff {list : Text} :
    NameAlike (StandardModule.removable ++ commaPieces list)
      (StandardModule.removable ++ commaSeparated list) ↔
    [] ∉ commaPieces list ∧ ∀ item ∈ commaPieces list, trim item ≠ [] → IsPackageName (trim item) →
      trim item ∈ StandardModule.removable ++ commaPieces list := by
  have hstandard : [] ∉ StandardModule.removable := by
    have hall : (StandardModule.packages ++ StandardModule.builtIn).all (· != "") = true := by
      decide +kernel
    intro hmem
    obtain ⟨s, hs, hnil⟩ := exists_of_mem_removable hmem
    have hne : s ≠ "" := by simpa using List.all_eq_true.mp hall s hs
    exact hne (String.toList_eq_nil_iff.mp hnil)
  constructor
  · intro h
    constructor
    · intro hnil
      have hname : IsPackageName [] := by simp [IsPackageName]
      rcases List.mem_append.mp ((h [] hname).mp (List.mem_append_right _ hnil)) with hmem | hmem
      · exact hstandard hmem
      · obtain ⟨item, -, -, hne⟩ := mem_commaSeparated.mp hmem
        exact hne rfl
    · intro item hitem hne hname
      apply (h _ hname).mpr
      exact List.mem_append_right _ (mem_commaSeparated.mpr ⟨item, hitem, rfl, hne⟩)
  · rintro ⟨hnil, hitems⟩ p hname
    constructor
    · intro hmem
      rcases List.mem_append.mp hmem with hmem | hmem
      · exact List.mem_append_left _ hmem
      · have hne : p ≠ [] := by
          rintro rfl
          exact hnil hmem
        have htrim : trim p = p := trim_eq_self
          ⟨fun c hc => (hname c (List.mem_of_head? hc)).1,
            fun c hc => (hname c (List.mem_of_getLast? hc)).1⟩
        exact List.mem_append_right _ (mem_commaSeparated.mpr ⟨p, hmem, htrim, hne⟩)
    · intro hmem
      rcases List.mem_append.mp hmem with hmem | hmem
      · exact List.mem_append_left _ hmem
      · obtain ⟨item, hitem, rfl, hne⟩ := mem_commaSeparated.mp hmem
        exact hitems item hitem hne hname

/-- The packages of the command line are read like the patterns to exclude exactly if no item of the
list is empty and each item that has blanks around it is a standard package or stands in the list
without them, or no package can have that name. -/
theorem imports_read_like_exclude_iff {list : Text} (hlist : list ≠ []) :
    (∀ (settings : Settings) (check : Nat → Text → List Diagnostic) (rounds : Nat) (source : Text),
      settings.imports = list →
      (fixCode settings.options check rounds source).outcome =
        (fixCode { settings.options with additionalImports := commaSeparated list } check rounds
          source).outcome) ↔
    [] ∉ commaPieces list ∧ ∀ item ∈ commaPieces list, trim item ≠ [] → IsPackageName (trim item) →
      trim item ∈ StandardModule.removable ++ commaPieces list := by
  have hcomma : ∀ x ∈ commaPieces list ++ commaSeparated list, ',' ∉ x := by
    intro x hx hmem
    rcases List.mem_append.mp hx with hx | hx
    · exact comma_not_mem_piece hx hmem
    · obtain ⟨item, hitem, rfl, -⟩ := mem_commaSeparated.mp hx
      exact comma_not_mem_piece hitem (mem_of_mem_trim hmem)
  rw [← nameAlike_commaSeparated_iff, ← outcome_withImports_iff hcomma]
  constructor
  · intro h options check rounds source
    let settings : Settings :=
      { imports := list
        expandStarImports := options.expandStarImports
        removeAllUnusedImports := options.removeAllUnusedImports
        removeDuplicateKeys := options.removeDuplicateKeys
        removeUnusedVariables := options.removeUnusedVariables }
    have hoptions : settings.options = withImports options (commaPieces list) := by
      have hadditional : settings.options.additionalImports = commaPieces list :=
        if_neg (by simpa using hlist)
      rw [← hadditional]
      rfl
    have hsame := h settings check rounds source rfl
    rwa [hoptions] at hsame
  · intro h settings check rounds source himports
    have hoptions : settings.options = withImports settings.options (commaPieces list) := by
      have hadditional : settings.options.additionalImports = commaPieces list := by
        rw [← himports] at hlist ⊢
        exact if_neg (by simpa using hlist)
      rw [← hadditional]
      rfl
    rw [hoptions]
    exact h settings.options check rounds source

/-- A blank after a standard package does no harm. One before another package hides it, and a comma
at the end lets all relative imports be removed. -/
theorem imports_read_like_exclude_spaced :
    let Alike (list : Text) : Prop :=
      ∀ (settings : Settings) (check : Nat → Text → List Diagnostic) (rounds : Nat) (source : Text),
        settings.imports = list →
        (fixCode settings.options check rounds source).outcome =
          (fixCode { settings.options with additionalImports := commaSeparated list } check rounds
            source).outcome
    Alike "os ,six,yaml".toList ∧ ¬Alike "os, six".toList ∧ ¬Alike "six,".toList := by
  have hos : "os".toList ∈ StandardModule.removable :=
    mem_removable.mpr ⟨"os", by decide +kernel, rfl⟩
  have hsix : "six".toList ∉ StandardModule.removable := by
    have hall : (StandardModule.packages ++ StandardModule.builtIn).all (· != "six") = true := by
      decide +kernel
    intro hmem
    obtain ⟨s, hs, hname⟩ := exists_of_mem_removable hmem
    have hne : s ≠ "six" := by simpa using List.all_eq_true.mp hall s hs
    exact hne (String.toList_inj.mp hname)
  refine ⟨(imports_read_like_exclude_iff (by decide)).mpr ⟨by decide, ?_⟩, fun h => ?_, fun h => ?_⟩
  · have hitems : commaPieces "os ,six,yaml".toList =
        ["os ".toList, "six".toList, "yaml".toList] := by decide
    rw [hitems]
    intro item hitem _ _
    simp only [List.mem_cons, List.not_mem_nil, or_false] at hitem
    rcases hitem with rfl | rfl | rfl
    · exact List.mem_append_left _ hos
    · exact List.mem_append_right _ (by decide)
    · exact List.mem_append_right _ (by decide)
  · have hitem := ((imports_read_like_exclude_iff (by decide)).mp h).2 " six".toList (by decide)
      (by decide) (by decide)
    rcases List.mem_append.mp hitem with hmem | hmem
    · exact hsix hmem
    · exact absurd hmem (by decide)
  · exact absurd ((imports_read_like_exclude_iff (by decide)).mp h).1 (by decide)

end Pruner.Command
