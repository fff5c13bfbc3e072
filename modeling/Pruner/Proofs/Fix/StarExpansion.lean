import Pruner.Proofs.Fix.Continuation
import Pruner.Proofs.Fix.Layout

/-!
What the expansion of stars changes: a source is filtered once with the expansion and once without
it, and the pieces are compared.

The rule asks for a single line with star imports, and then replaces every star of that line. So two
star imports on one line are both expanded, and a star that multiplies or unpacks is replaced too.
-/
namespace Pruner.Fix

open Pruner.Text Pruner.Import Pruner.StarImport

/-- The options with the expansion of stars turned on or off. -/
def withStars (options : Options) (on : Bool) : Options :=
  { options with expandStarImports := on }

/-- Marks that leave the stars alone. -/
def withoutStars (m : Marks) : Marks :=
  { m with stars := [] }

/-- The names that come from star imports, as they are put in the place of a star. -/
def starText (ds : List Diagnostic) : Text :=
  join ", ".toList (sortDistinct ((Diagnostic.starUsages ds).map (·.2.1)))

/-- What stands before the star of a `from` import: the words `from` and `import`, and blanks. -/
def OpensStar (before : Text) : Prop :=
  ∃ front path blanks : Text, before = front ++ fromWord ++ path ++ importWord ++ blanks ∧
    front.getLast?.any isWord = false ∧ path.head?.any isWord = false ∧ path ≠ [] ∧
    path.getLast?.any isWord = false ∧ ∀ c ∈ blanks, isBlank c = true

/-- The star of a `from` import gives way to the names, and nothing else changes. -/
def ExpandsClause (names line piece : Text) : Prop :=
  ∃ before after : Text, OpensStar before ∧ line = before ++ '*' :: after ∧
    piece = before ++ names ++ after

/-- The line at index `i` is the one whose stars are replaced. -/
structure IsExpanded (options : Options) (ds : List Diagnostic) (source : Text) (i : Nat)
    (line : Text) : Prop where
  /-- The source does not mention the names that forbid an expansion. -/
  allowed : hasWord "__all__".toList source = false ∧ hasWord "del".toList source = false
  /-- Every star import is on this line. -/
  only : Diagnostic.starImportLines ds ≠ [] ∧
    ∀ n ∈ Diagnostic.starImportLines ds, n = ((i + 1 : Nat) : Int)
  used : Diagnostic.starUsages ds ≠ []
  /-- No other rule is for this line. -/
  free : ∃ m, marks (withStars options false) source ds = .ok m ∧ ruleFor? m (i + 1) = none
  no_hash : '#' ∉ line
  star : '*' ∈ line

section Names

variable {names : List Text}

/-- Names without a backslash can always be put in the place of stars. -/
theorem expand_plain (h : ∀ name ∈ names, '\\' ∉ name) (line : Text) :
    expand line names = .ok (replaceStars (join ", ".toList (sortDistinct names)) line) := by
  have hplain : '\\' ∉ join ", ".toList (sortDistinct names) := not_mem_names (by decide) h
  have hparse := parse_go_of_plain hplain (join ", ".toList (sortDistinct names)) 0
  apply expand_eq_ok.mpr
  refine ⟨_, hparse, ?_⟩
  rw [fill_of_plain hplain hparse]

end Names

section Lines

variable {options : Options} {m : Marks}

/-- Without marked stars a line falls under the same rule, unless that was the rule for stars. -/
theorem ruleFor?_without_stars (m : Marks) (number : Nat) :
    ruleFor? (withoutStars m) number =
      if ruleFor? m number = some .stars then none else ruleFor? m number := by
  rw [ruleFor?, ruleFor?, withoutStars]
  cases m.imports.contains (number : Int)
  · cases m.assignments.contains (number : Int)
    · cases m.keys.contains (number : Int)
      · cases m.stars.contains (number : Int) <;> rfl
      · rfl
    · rfl
  · rfl

/-- Turning the expansion off makes a difference only for a line under the rule for stars. -/
theorem editLine_withStars (hnames : ∀ name ∈ m.starNames, '\\' ∉ name) (number : Nat)
    (previous line : Text) :
    editLine (withStars options true) m number previous line =
      if '#' ∉ line ∧ ruleFor? m number = some .stars then
        .ok (replaceStars (join ", ".toList (sortDistinct m.starNames)) line)
      else editLine (withStars options false) (withoutStars m) number previous line := by
  rw [editLine_eq, editLine_eq, ruleFor?_without_stars]
  by_cases hhash : '#' ∈ line
  · simp [hhash]
  · rw [if_neg hhash, if_neg hhash]
    cases hrule : ruleFor? m number with
    | none => simp
    | some rule =>
      cases rule with
      | stars => simp [hhash, expand_plain hnames]
      | imports => simp [withStars, withoutStars, unusedOn, Options.allowed]
      | _ => simp [withoutStars]

/-- A line under the rule for stars stays if the expansion is off. -/
theorem editLine_off {number : Nat} (hrule : ruleFor? m number = some .stars)
    (previous line : Text) :
    editLine (withStars options false) (withoutStars m) number previous line = .ok line := by
  rw [editLine_eq, ruleFor?_without_stars, if_pos hrule]
  split <;> rfl

theorem editLines_cons_eq_error {number : Nat} {previous line : Text} {rest : List Text}
    {fault : Fault} :
    editLines options m number previous (line :: rest) = .error fault ↔
      editLine options m number previous line = .error fault ∨
        (∃ piece, editLine options m number previous line = .ok piece) ∧
          editLines options m (number + 1) line rest = .error fault := by
  rw [editLines, bind_eq_error]
  simp only [bind_eq_error, reduceCtorEq, and_false, exists_false, or_false, exists_and_right]

/-- The expansion of stars never fails and keeps no other failure from happening. -/
theorem editLines_withStars_eq_error (hnames : ∀ name ∈ m.starNames, '\\' ∉ name) (number : Nat)
    (previous : Text) (ls : List Text) (fault : Fault) :
    editLines (withStars options true) m number previous ls = .error fault ↔
      editLines (withStars options false) (withoutStars m) number previous ls = .error fault := by
  induction ls generalizing number previous with
  | nil => simp [editLines]
  | cons line rest ih =>
    rw [editLines_cons_eq_error, editLines_cons_eq_error, ih, editLine_withStars hnames]
    by_cases hstar : '#' ∉ line ∧ ruleFor? m number = some .stars
    · rw [if_pos hstar, editLine_off hstar.2]
      simp
    · rw [if_neg hstar]

end Lines

section Sources

variable {options : Options} {ds : List Diagnostic} {source : Text}

/-- Without the expansion the marks are the same but for the stars. -/
theorem marks_withStars : marks (withStars options false) source ds =
    (marks (withStars options true) source ds).map withoutStars := by
  have hstars : markedStars (withStars options false) source ds = [] := by
    simp [markedStars, mayExpandStars, withStars]
  have hkeys : (withStars options false).removeDuplicateKeys =
      (withStars options true).removeDuplicateKeys := rfl
  rw [marks, marks, hstars, hkeys]
  cases Diagnostic.unusedImportNames ds with
  | error fault => rfl
  | ok names =>
    cases (withStars options true).removeDuplicateKeys with
    | false => rfl
    | true =>
      cases DuplicateKey.removableLines ds source with
      | error fault => rfl
      | ok keys => rfl

/-- A list without repetitions of at most one element has that element everywhere. -/
theorem mem_single_eraseDups {ns : List Int} {n : Int} :
    ns.eraseDups.length ≤ 1 ∧ n ∈ ns.eraseDups ↔ ns ≠ [] ∧ ∀ k ∈ ns, k = n := by
  constructor
  · rintro ⟨hlen, hmem⟩
    obtain ⟨k, hk⟩ : ∃ k, ns.eraseDups = [k] := by
      apply List.length_eq_one_iff.mp
      have hpos := List.length_pos_of_mem hmem
      omega
    rw [hk, List.mem_singleton] at hmem
    constructor
    · rintro rfl
      simp at hk
    · intro j hj
      rw [← List.mem_eraseDups, hk, List.mem_singleton] at hj
      rw [hj, hmem]
  · rintro ⟨hne, hall⟩
    have hmem : ∀ k ∈ ns.eraseDups, k = n := fun k hk => hall k (List.mem_eraseDups.mp hk)
    constructor
    · -- Two elements would be equal, but there are no repetitions.
      match hdups : ns.eraseDups with
      | [] => simp
      | [k] => simp
      | j :: k :: rest =>
        have hnodup : ns.eraseDups.Nodup := nodup_eraseDups ns
        rw [hdups] at hmem hnodup
        have hj : j = n := hmem j (by simp)
        have hk : k = n := hmem k (by simp)
        simp [hj, hk] at hnodup
    · obtain ⟨k, hk⟩ := List.exists_mem_of_ne_nil ns hne
      rw [List.mem_eraseDups, ← hall k hk]
      exact hk

/-- Which line is marked for its stars. -/
theorem mem_markedStars_iff {n : Int} :
    n ∈ markedStars (withStars options true) source ds ↔
      (hasWord "__all__".toList source = false ∧ hasWord "del".toList source = false) ∧
        (Diagnostic.starImportLines ds ≠ [] ∧ ∀ k ∈ Diagnostic.starImportLines ds, k = n) ∧
          Diagnostic.starUsages ds ≠ [] := by
  rw [← mem_single_eraseDups, markedStars]
  simp only [mayExpandStars, withStars, Bool.true_and]
  split
  · rename_i hmay
    simp only [Bool.and_eq_true, Bool.not_eq_true', decide_eq_true_eq, List.isEmpty_eq_false_iff]
      at hmay
    tauto
  · rename_i hmay
    simp only [Bool.and_eq_true, Bool.not_eq_true', decide_eq_true_eq, List.isEmpty_eq_false_iff]
      at hmay
    simp only [List.not_mem_nil, false_iff]
    tauto

/-- The rule for stars is the last one: it gets a line that no other rule is for. -/
theorem ruleFor?_eq_stars {m : Marks} {number : Nat} :
    ruleFor? m number = some .stars ↔
      ruleFor? (withoutStars m) number = none ∧ (number : Int) ∈ m.stars := by
  rw [ruleFor?, ruleFor?, withoutStars, ← List.contains_iff_mem]
  cases m.imports.contains (number : Int)
  · cases m.assignments.contains (number : Int)
    · cases m.keys.contains (number : Int)
      · simp
      · simp
    · simp
  · simp

/-- A line is left to the rule for stars, and has one, exactly if it is the expanded one. -/
theorem isExpanded_iff {m : Marks} {i : Nat} {line : Text}
    (hm : marks (withStars options true) source ds = .ok m) :
    IsExpanded options ds source i line ↔
      ('#' ∉ line ∧ ruleFor? m (i + 1) = some .stars) ∧ '*' ∈ line := by
  have hoff : marks (withStars options false) source ds = .ok (withoutStars m) := by
    rw [marks_withStars, hm]
    rfl
  have hstars : m.stars = markedStars (withStars options true) source ds := (marks_eq_ok.mp hm).2.2.1
  rw [ruleFor?_eq_stars, hstars, mem_markedStars_iff]
  constructor
  · rintro ⟨allowed, only, used, ⟨m', hm', hfree⟩, no_hash, star⟩
    obtain rfl := Except.ok.inj (hoff.symm.trans hm')
    exact ⟨⟨no_hash, hfree, allowed, only, used⟩, star⟩
  · rintro ⟨⟨no_hash, hfree, allowed, only, used⟩, star⟩
    exact ⟨allowed, only, used, ⟨_, hoff, hfree⟩, no_hash, star⟩

theorem backslash_not_mem_starNames {m : Marks}
    (hnames : ∀ u ∈ Diagnostic.starUsages ds, IsIdentifier u.2.1)
    (hm : marks (withStars options true) source ds = .ok m) :
    ∀ name ∈ m.starNames, '\\' ∉ name := by
  intro name hname
  rw [(marks_eq_ok.mp hm).2.2.2.1] at hname
  obtain ⟨u, hu, rfl⟩ := List.mem_map.mp hname
  exact (hnames u hu).not_mem (by decide)

/-- The two runs fail alike. -/
theorem filterCode_withStars_eq_error
    (hnames : ∀ u ∈ Diagnostic.starUsages ds, IsIdentifier u.2.1) (fault : Fault) :
    filterCode (withStars options true) ds source = .error fault ↔
      filterCode (withStars options false) ds source = .error fault := by
  rw [filterCode, filterCode, marks_withStars]
  cases hm : marks (withStars options true) source ds with
  | error other => rfl
  | ok m =>
    exact editLines_withStars_eq_error (backslash_not_mem_starNames hnames hm) 1 [] (lines source)
      fault

variable {ps plain : List Text}

/-- The two runs agree on every line but the expanded one, which stays without the expansion. -/
theorem getElem?_withStars (hnames : ∀ u ∈ Diagnostic.starUsages ds, IsIdentifier u.2.1)
    (h : filterCode (withStars options true) ds source = .ok ps)
    (h' : filterCode (withStars options false) ds source = .ok plain) {i : Nat} {line : Text}
    (hline : (lines source)[i]? = some line) :
    (IsExpanded options ds source i line →
      ps[i]? = some (replaceStars (starText ds) line) ∧ plain[i]? = some line) ∧
    (¬IsExpanded options ds source i line → ps[i]? = plain[i]?) := by
  obtain ⟨m, hm, h⟩ := filterCode_eq_ok.mp h
  obtain ⟨m', hm', h'⟩ := filterCode_eq_ok.mp h'
  rw [marks_withStars, hm] at hm'
  obtain rfl := Except.ok.inj hm'
  obtain ⟨hlen, hall⟩ := editLines_eq_ok.mp h
  obtain ⟨hlen', hall'⟩ := editLines_eq_ok.mp h'
  have hi : i < (lines source).length := (List.getElem?_eq_some_iff.mp hline).1
  obtain ⟨piece, hpiece⟩ : ∃ piece, ps[i]? = some piece :=
    ⟨_, List.getElem?_eq_getElem (by omega)⟩
  obtain ⟨piece', hpiece'⟩ : ∃ piece', plain[i]? = some piece' :=
    ⟨_, List.getElem?_eq_getElem (by omega)⟩
  obtain ⟨before, hbefore⟩ : ∃ before, ([] :: lines source)[i]? = some before :=
    ⟨_, List.getElem?_eq_getElem (by rw [List.length_cons]; omega)⟩
  have hedit := hall i line before piece hline hbefore hpiece
  have hedit' := hall' i line before piece' hline hbefore hpiece'
  have hstarNames : m.starNames = (Diagnostic.starUsages ds).map (·.2.1) :=
    (marks_eq_ok.mp hm).2.2.2.1
  rw [editLine_withStars (backslash_not_mem_starNames hnames hm), Nat.add_comm, hstarNames] at hedit
  rw [Nat.add_comm] at hedit'
  rw [isExpanded_iff hm, hpiece, hpiece']
  by_cases hrule : '#' ∉ line ∧ ruleFor? m (i + 1) = some .stars
  · rw [if_pos hrule] at hedit
    rw [editLine_off hrule.2] at hedit'
    have hsame : piece = replaceStars (starText ds) line := (Except.ok.inj hedit).symm
    have hsame' : piece' = line := (Except.ok.inj hedit').symm
    constructor
    · intro _
      rw [hsame, hsame']
      exact ⟨rfl, rfl⟩
    · intro hnot
      -- The line has no star that could be replaced.
      have hstar : '*' ∉ line := fun hstar => hnot ⟨hrule, hstar⟩
      rw [hsame, hsame', replaceStars_eq_self (Or.inl hstar)]
  · rw [if_neg hrule, hedit'] at hedit
    constructor
    · exact fun hexpanded => absurd hexpanded.1 hrule
    · intro _
      rw [Except.ok.inj hedit]

theorem length_withStars (h : filterCode (withStars options true) ds source = .ok ps)
    (h' : filterCode (withStars options false) ds source = .ok plain) :
    ps.length = (lines source).length ∧ plain.length = (lines source).length := by
  obtain ⟨m, -, h⟩ := filterCode_eq_ok.mp h
  obtain ⟨m', -, h'⟩ := filterCode_eq_ok.mp h'
  exact ⟨(editLines_eq_ok.mp h).1, (editLines_eq_ok.mp h').1⟩

end Sources

section Stars

variable {names line : Text}

theorem star_not_mem_starText {ds : List Diagnostic}
    (hnames : ∀ u ∈ Diagnostic.starUsages ds, IsIdentifier u.2.1) : '*' ∉ starText ds := by
  apply not_mem_names (by decide)
  intro name hname
  obtain ⟨u, hu, rfl⟩ := List.mem_map.mp hname
  exact (hnames u hu).not_mem (by decide)

/-- A replaced star is gone. -/
theorem replaceStars_ne (hnames : '*' ∉ names) (hline : '*' ∈ line) :
    replaceStars names line ≠ line := by
  apply replaceStars_ne_iff.mpr
  refine ⟨hline, ?_⟩
  rintro rfl
  simp at hnames

/-- All stars are replaced, so only the star of the import is if there is no other. -/
theorem expandsClause_iff (hnames : '*' ∉ names) :
    ExpandsClause names line (replaceStars names line) ↔
      line.count '*' = 1 ∧ ∃ before after : Text, line = before ++ '*' :: after ∧
        OpensStar before := by
  constructor
  · rintro ⟨before, after, hopens, hline, hpiece⟩
    refine ⟨?_, before, after, hline, hopens⟩
    have hnone : (replaceStars names line).count '*' = 0 := by
      rw [count_replaceStars, List.count_eq_zero_of_not_mem hnames, Nat.mul_zero]
    rw [hpiece, List.count_append, List.count_append] at hnone
    rw [hline, List.count_append, List.count_cons_self]
    omega
  · rintro ⟨hone, before, after, hline, hopens⟩
    refine ⟨before, after, hopens, hline, ?_⟩
    rw [hline, List.count_append, List.count_cons_self] at hone
    have hbefore : '*' ∉ before := List.count_eq_zero.mp (by omega)
    have hafter : '*' ∉ after := List.count_eq_zero.mp (by omega)
    calc replaceStars names line
        = replaceStars names before ++ (names ++ replaceStars names after) := by
          rw [hline, replaceStars_append]
          rfl
      _ = before ++ names ++ after := by
          rw [replaceStars_eq_self (Or.inl hbefore), replaceStars_eq_self (Or.inl hafter),
            List.append_assoc]

end Stars

/-- With two star imports or more a line is expanded exactly if all of them are on that line. With
one star import, what is expanded is only the star of its clause exactly if its line has no other
star. Everything else is as without the expansion, which never fails. -/
theorem star_expansion_confined_iff (options : Options) (ds : List Diagnostic) (source : Text)
    (hnames : ∀ u ∈ Diagnostic.starUsages ds, IsIdentifier u.2.1) :
    (∀ fault, filterCode (withStars options true) ds source = .error fault ↔
      filterCode (withStars options false) ds source = .error fault) ∧
    ∀ ps plain, filterCode (withStars options true) ds source = .ok ps →
      filterCode (withStars options false) ds source = .ok plain →
        (2 ≤ (Diagnostic.starImportLines ds).length →
          (ps ≠ plain ↔
            ∃ i line, (lines source)[i]? = some line ∧ IsExpanded options ds source i line)) ∧
        ((Diagnostic.starImportLines ds).length = 1 →
          ∀ i line piece, (lines source)[i]? = some line → ps[i]? = some piece →
            plain[i]? ≠ some piece →
              Diagnostic.starImportLines ds = [((i + 1 : Nat) : Int)] ∧ plain[i]? = some line ∧
              (ExpandsClause (starText ds) line piece ↔
                line.count '*' = 1 ∧ ∃ before after : Text, line = before ++ '*' :: after ∧
                  OpensStar before)) := by
  refine ⟨fun fault => filterCode_withStars_eq_error hnames fault, fun ps plain h h' => ⟨?_, ?_⟩⟩
  · intro _
    obtain ⟨hlen, hlen'⟩ := length_withStars h h'
    constructor
    · intro hne
      by_contra hnone
      apply hne
      apply List.ext_getElem?
      intro i
      by_cases hi : i < (lines source).length
      · have hline := List.getElem?_eq_getElem hi
        apply (getElem?_withStars hnames h h' hline).2
        exact fun hexpanded => hnone ⟨i, _, hline, hexpanded⟩
      · rw [List.getElem?_eq_none (by omega), List.getElem?_eq_none (by omega)]
    · rintro ⟨i, line, hline, hexpanded⟩ hsame
      obtain ⟨hpiece, hpiece'⟩ := (getElem?_withStars hnames h h' hline).1 hexpanded
      rw [hsame, hpiece', Option.some.injEq] at hpiece
      exact replaceStars_ne (star_not_mem_starText hnames) hexpanded.star hpiece.symm
  · intro hone i line piece hline hpiece hchanged
    have hexpanded : IsExpanded options ds source i line := by
      by_contra hnot
      rw [← (getElem?_withStars hnames h h' hline).2 hnot] at hchanged
      exact hchanged hpiece
    obtain ⟨hreplaced, hplain⟩ := (getElem?_withStars hnames h h' hline).1 hexpanded
    obtain rfl : piece = replaceStars (starText ds) line :=
      Option.some.inj (hpiece.symm.trans hreplaced)
    refine ⟨?_, hplain, expandsClause_iff (star_not_mem_starText hnames)⟩
    obtain ⟨n, hn⟩ := List.length_eq_one_iff.mp hone
    rw [hn, hexpanded.only.2 n (by simp [hn])]

/-- Diagnostics for star imports on the first line, of which one gives the name `cos`. -/
def cosDiagnostics (sources : List Text) : List Diagnostic :=
  sources.map (fun name => ⟨1, .starImport name⟩) ++ [⟨1, .starUsage "cos".toList "math".toList⟩]

theorem isIdentifier_cos (sources : List Text) :
    ∀ u ∈ Diagnostic.starUsages (cosDiagnostics sources), IsIdentifier u.2.1 := by
  have hnone : Diagnostic.starUsages (sources.map fun name => ⟨1, .starImport name⟩) = [] := by
    apply List.filterMap_eq_nil_iff.mpr
    intro d hd
    obtain ⟨name, -, rfl⟩ := List.mem_map.mp hd
    rfl
  have husages : Diagnostic.starUsages (cosDiagnostics sources) =
      [(1, "cos".toList, "math".toList)] := by
    rw [cosDiagnostics, Diagnostic.starUsages, List.filterMap_append]
    rw [Diagnostic.starUsages] at hnone
    rw [hnone]
    rfl
  intro u hu
  rw [husages, List.mem_singleton] at hu
  rw [hu]
  exact ⟨'c', "os".toList, rfl, by decide, List.all_eq_true.mp (by decide)⟩

/-- A lone star import is expanded as it should be, a product on its line is lost with it, and two
star imports on one line are expanded although there are two. -/
theorem star_of_product_expanded :
    (filterCode { expandStarImports := true } (cosDiagnostics ["math".toList])
        "from math import *\n".toList = .ok ["from math import cos\n".toList] ∧
      ExpandsClause "cos".toList "from math import *\n".toList "from math import cos\n".toList) ∧
    (filterCode { expandStarImports := true } (cosDiagnostics ["math".toList])
        "from math import *; 2 * cos(1)\n".toList =
          .ok ["from math import cos; 2 cos cos(1)\n".toList] ∧
      ¬ExpandsClause "cos".toList "from math import *; 2 * cos(1)\n".toList
        "from math import cos; 2 cos cos(1)\n".toList) ∧
    filterCode { expandStarImports := true } (cosDiagnostics ["math".toList, "cmath".toList])
        "from math import *; from cmath import *\n".toList =
          .ok ["from math import cos; from cmath import cos\n".toList] ∧
      ∃ i line, (lines "from math import *; from cmath import *\n".toList)[i]? = some line ∧
        IsExpanded {} (cosDiagnostics ["math".toList, "cmath".toList])
          "from math import *; from cmath import *\n".toList i line := by
  have hopens : OpensStar "from math import ".toList :=
    ⟨[], " math ".toList, " ".toList, by decide, rfl, by decide, by decide, by decide,
      List.all_eq_true.mp (by decide)⟩
  have hone := eq_ok_of_toOption (x := filterCode { expandStarImports := true }
    (cosDiagnostics ["math".toList]) "from math import *\n".toList)
    (a := ["from math import cos\n".toList]) (by decide +kernel)
  have hproduct := eq_ok_of_toOption (x := filterCode { expandStarImports := true }
    (cosDiagnostics ["math".toList]) "from math import *; 2 * cos(1)\n".toList)
    (a := ["from math import cos; 2 cos cos(1)\n".toList]) (by decide +kernel)
  have htwo := eq_ok_of_toOption (x := filterCode { expandStarImports := true }
    (cosDiagnostics ["math".toList, "cmath".toList])
    "from math import *; from cmath import *\n".toList)
    (a := ["from math import cos; from cmath import cos\n".toList]) (by decide +kernel)
  have hcos : starText (cosDiagnostics ["math".toList]) = "cos".toList := by cbv
  refine ⟨⟨hone, ?_⟩, ⟨hproduct, ?_⟩, htwo, ?_⟩
  · have hconfined := ((star_expansion_confined_iff {} (cosDiagnostics ["math".toList])
      "from math import *\n".toList (isIdentifier_cos _)).2 _ ["from math import *\n".toList] hone
      (eq_ok_of_toOption (by decide +kernel))).2 rfl 0 "from math import *\n".toList
      "from math import cos\n".toList (by decide) rfl (by decide)
    rw [← hcos]
    exact hconfined.2.2.mpr ⟨by decide, "from math import ".toList, ['\n'], by decide, hopens⟩
  · have hconfined := ((star_expansion_confined_iff {} (cosDiagnostics ["math".toList])
      "from math import *; 2 * cos(1)\n".toList (isIdentifier_cos _)).2 _
      ["from math import *; 2 * cos(1)\n".toList] hproduct
      (eq_ok_of_toOption (by decide +kernel))).2 rfl 0 "from math import *; 2 * cos(1)\n".toList
      "from math import cos; 2 cos cos(1)\n".toList (by decide) rfl (by decide)
    rw [← hcos]
    intro hexpands
    exact absurd (hconfined.2.2.mp hexpands).1 (by decide)
  · exact (((star_expansion_confined_iff {} (cosDiagnostics ["math".toList, "cmath".toList])
      "from math import *; from cmath import *\n".toList (isIdentifier_cos _)).2 _
      ["from math import *; from cmath import *\n".toList] htwo
      (eq_ok_of_toOption (by decide +kernel))).1 (by decide)).mp (by decide)

end Pruner.Fix
