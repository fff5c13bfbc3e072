import Pruner.Proofs.Import.Spacing
import Pruner.Text.Normal

namespace Pruner.Text

theorem textLe_refl (t : Text) : le t t = true := by
  simpa using textLe_total t t

/-- The last of texts in ascending order is the greatest of them. -/
theorem getLast?_eq_some_iff_of_sorted {ts : List Text}
    (h : ts.Pairwise fun a b => le a b = true) {t : Text} :
    ts.getLast? = some t ↔ t ∈ ts ∧ ∀ u ∈ ts, le u t = true := by
  have hgreatest {init : List Text} {last : Text} (heq : ts = init ++ [last]) :
      ∀ u ∈ ts, le u last = true := by
    subst heq
    intro u hu
    rcases List.mem_append.mp hu with hinit | hlast
    · exact (List.pairwise_append.mp h).2.2 u hinit last (by simp)
    · rw [List.mem_singleton.mp hlast]
      exact textLe_refl last
  constructor
  · intro hlast
    obtain ⟨init, heq⟩ := List.getLast?_eq_some_iff.mp hlast
    exact ⟨by simp [heq], hgreatest heq⟩
  · rintro ⟨hmem, hmax⟩
    obtain ⟨init, last, heq⟩ := (List.eq_nil_or_concat ts).resolve_left (List.ne_nil_of_mem hmem)
    rw [List.concat_eq_append] at heq
    have hlast : last = t :=
      textLe_antisymm (hmax last (by simp [heq])) (hgreatest heq t hmem)
    rw [heq, hlast, List.getLast?_concat]

end Pruner.Text

namespace Pruner.Import

open Pruner.Text Pruner.Line

/-- The name that a clause binds: the one after `as`, or else the first part of the path. Names are
compared in their normal form. -/
def boundName (clause : Text) : Text :=
  normalForm <|
    match (words clause).reverse with
    | name :: word :: _ => if word == "as".toList then name else root clause
    | _ => root clause

/-- Of some clauses, the last one that binds a name. -/
def lastBinding (name : Text) (clauses : List Text) : Option Text :=
  (clauses.filter (boundName · == name)).getLast?

theorem boundName_trim (x : Text) : boundName (trim x) = boundName x := by
  rw [boundName, words_trim, root_trim, boundName]

theorem lastBinding_map_trim (name : Text) (xs : List Text) :
    lastBinding name (xs.map trim) = (lastBinding name xs).map trim := by
  have hsame : ((boundName · == name) ∘ trim) = (boundName · == name) := by
    funext x
    rw [Function.comp_apply, boundName_trim]
  rw [lastBinding, List.filter_map, List.getLast?_map, hsame, lastBinding]

theorem mem_of_lastBinding {name x : Text} {xs : List Text} (h : lastBinding name xs = some x) :
    x ∈ xs ∧ boundName x = name := by
  have hmem := List.mem_filter.mp (List.mem_of_getLast? h)
  exact ⟨hmem.1, beq_iff_eq.mp hmem.2⟩

theorem exists_lastBinding {name : Text} {xs : List Text} (h : name ∈ xs.map boundName) :
    ∃ x, lastBinding name xs = some x := by
  obtain ⟨y, hy, hname⟩ := List.mem_map.mp h
  have hmem : y ∈ xs.filter (boundName · == name) := List.mem_filter.mpr ⟨hy, by simp [hname]⟩
  exact ⟨_, List.getLast?_eq_getLast_of_ne_nil (List.ne_nil_of_mem hmem)⟩

/-- In ascending order the last clause that binds a name is the greatest that does. -/
theorem lastBinding_sort_eq_some_iff {name x : Text} {xs : List Text} :
    lastBinding name (sort xs) = some x ↔
      x ∈ xs ∧ boundName x = name ∧ ∀ y ∈ xs, boundName y = name → le y x = true := by
  have hmem (y : Text) : y ∈ (sort xs).filter (boundName · == name) ↔
      y ∈ xs ∧ boundName y = name := by
    rw [List.mem_filter, (sort_perm xs).mem_iff, beq_iff_eq]
  rw [lastBinding, getLast?_eq_some_iff_of_sorted ((sort_sorted xs).filter _), hmem, and_assoc]
  simp only [hmem, and_imp]

theorem lastBinding_sort_eq_iff {name : Text} {xs : List Text} (h : name ∈ xs.map boundName) :
    lastBinding name (sort xs) = lastBinding name xs ↔
      ∃ p, lastBinding name xs = some p ∧ ∀ q ∈ xs, boundName q = name → le q p = true := by
  obtain ⟨p, hp⟩ := exists_lastBinding h
  have hbinds := mem_of_lastBinding hp
  rw [hp, lastBinding_sort_eq_some_iff]
  constructor
  · rintro ⟨-, -, hmax⟩
    exact ⟨p, rfl, hmax⟩
  · rintro ⟨p', hp', hmax⟩
    obtain rfl := Option.some.inj hp'
    exact ⟨hbinds.1, hbinds.2, hmax⟩

/-- Texts that are trimmed after they are put in order may be the same with other blanks, so it is
any of the last clause's texts that has to be the greatest. -/
theorem lastBinding_map_trim_sort_iff {name : Text} {xs : List Text}
    (h : name ∈ xs.map boundName) :
    lastBinding name ((sort xs).map trim) = lastBinding name (xs.map trim) ↔
      ∃ p ∈ xs, lastBinding name (xs.map trim) = some (trim p) ∧
        ∀ q ∈ xs, boundName q = name → le q p = true := by
  have hsorted : name ∈ (sort xs).map boundName := ((sort_perm xs).map boundName).mem_iff.mpr h
  obtain ⟨m, hm⟩ := exists_lastBinding hsorted
  obtain ⟨hmem, hbinds, hgreatest⟩ := lastBinding_sort_eq_some_iff.mp hm
  rw [lastBinding_map_trim, hm, Option.map_some]
  constructor
  · intro hsame
    exact ⟨m, hmem, hsame.symm, hgreatest⟩
  · rintro ⟨p, hp, hlast, hmax⟩
    have hpname : boundName p = name := by
      rw [← boundName_trim]
      exact (mem_of_lastBinding hlast).2
    have hpm : p = m := textLe_antisymm (hgreatest p hp hpname) (hmax m hmem hbinds)
    rw [hlast, hpm]

/-- The modules of a line with a line feed get lines of their own, in ascending order of the texts
between the commas. -/
theorem ModuleLine.breakUp_order (l : ModuleLine) (hends : EndsLine l.line) :
    breakUp l.line = .ok (((sort l.pieces).map trim).flatMap fun x =>
      l.indent ++ "import ".toList ++ x ++ ending l.line) := by
  have hending : ending l.line ≠ [] := by
    intro hnil
    have hnewline := hends.append_ending []
    simp [hnil, EndsLine] at hnewline
  rw [l.breakUp_line, if_neg hending, ownLines, l.commaPieces_text, List.flatMap_map,
    List.flatMap_def]

/-- What the order of the clauses does to the names that they bind. Of the clauses that are kept and
bind one name, the last one stays the last exactly if no other one has a greater text. -/
theorem last_binding_kept_iff :
    (∀ l : ModuleLine, EndsLine l.line →
      ∃ order : List Text, order.Perm l.bare ∧
        breakUp l.line =
          .ok (order.flatMap fun x => l.indent ++ "import ".toList ++ x ++ ending l.line) ∧
        ∀ name ∈ l.bare.map boundName,
          (lastBinding name order = lastBinding name l.bare ↔
            ∃ p ∈ l.pieces, lastBinding name l.bare = some (trim p) ∧
              ∀ q ∈ l.pieces, boundName q = name → le q p = true)) ∧
    ∀ l : NamesLine, l.lead ≠ [] → hasWord importWord l.source.text = false → ∀ unused : List Text,
      (∀ x ∈ l.bare, occursIn (l.base ++ ['.']) x = false) →
      (l.kept unused = [] ∧ filterFrom l.line unused = .ok (passFor l.line)) ∨
        ∃ order : List Text, order.Perm (l.kept unused) ∧
          filterFrom l.line unused = .ok (withNames l.line l.before order) ∧
          ∀ name ∈ (l.kept unused).map boundName,
            (lastBinding name order = lastBinding name (l.kept unused) ↔
              ∃ p, lastBinding name (l.kept unused) = some p ∧
                ∀ q ∈ l.kept unused, boundName q = name → le q p = true) := by
  constructor
  · intro l hends
    refine ⟨(sort l.pieces).map trim, l.perm_bare, l.breakUp_order hends, fun name hname => ?_⟩
    rw [← l.map_trim_pieces] at hname ⊢
    apply lastBinding_map_trim_sort_iff
    rwa [List.map_map, show boundName ∘ trim = boundName from funext boundName_trim] at hname
  · intro l hlead hword unused hmodule
    have hresult := l.filterFrom_line hlead hword unused fun x hx =>
      erase_of_not_occursIn (by simp) (hmodule x hx)
    by_cases hkept : l.kept unused = []
    · rw [if_pos hkept] at hresult
      exact Or.inl ⟨hkept, hresult⟩
    · rw [if_neg hkept] at hresult
      refine Or.inr ⟨sort (l.kept unused), sort_perm _, hresult, fun name hname => ?_⟩
      exact lastBinding_sort_eq_iff hname

/-- A mark and then the letters of `import` in one name. -/
theorem isIdentifier_marked : IsIdentifier "x\u0301import".toList := by
  have hparts : "\u0301import".toList.all isIdentifierPart = true := by decide +kernel
  exact ⟨'x', "\u0301import".toList, rfl, by decide, List.all_eq_true.mp hparts⟩

/-- Two modules under one name. -/
def oneAlias : ModuleLine where
  clauses := [" b as x".toList, " a as x".toList]
  close := ['\n']
  ne_nil := by decide
  inline := by decide
  word_ends := by decide
  close_blank := all_isBlank_newline
  close_last := not_mem_dropLast_newline
  indent := []
  indent_margin := isMargin_nil

/-- Three names, two of them under one name. -/
def oneAliasFrom : NamesLine :=
  .spaced (.single ['m'] isIdentifier_m)
    [" c".toList, " a as x".toList, " b as x".toList] (by decide) (by decide) (by decide)

theorem last_binding_kept_sample :
    (oneAlias.line = "import b as x, a as x\n".toList ∧ EndsLine oneAlias.line ∧
      ∃ order : List Text,
        breakUp oneAlias.line = .ok (order.flatMap fun x =>
          oneAlias.indent ++ "import ".toList ++ x ++ ending oneAlias.line) ∧
        lastBinding ['x'] order ≠ lastBinding ['x'] oneAlias.bare) ∧
    (oneAliasFrom.line = "from m import c, a as x, b as x\n".toList ∧ oneAliasFrom.lead ≠ [] ∧
      hasWord importWord oneAliasFrom.source.text = false ∧
      ∃ order : List Text,
        filterFrom oneAliasFrom.line ["m.c".toList] =
          .ok (withNames oneAliasFrom.line oneAliasFrom.before order) ∧
        lastBinding ['x'] order = lastBinding ['x'] (oneAliasFrom.kept ["m.c".toList])) := by
  constructor
  · have hpieces : oneAlias.pieces = [" b as x".toList, " a as x\n".toList] := by decide
    have hbare : lastBinding ['x'] oneAlias.bare = some "a as x".toList := by decide
    obtain ⟨order, -, hresult, hiff⟩ := last_binding_kept_iff.1 oneAlias rfl
    refine ⟨by decide, rfl, order, hresult, ?_⟩
    rw [ne_eq, hiff ['x'] (by decide), hbare, hpieces]
    rintro ⟨p, hp, hlast, hmax⟩
    rcases List.mem_cons.mp hp with rfl | hp
    · revert hlast
      decide
    · rw [List.mem_singleton.mp hp] at hmax
      have hle := hmax " b as x".toList (by simp) (by decide)
      revert hle
      decide
  · have hkept : oneAliasFrom.kept ["m.c".toList] = ["a as x".toList, "b as x".toList] := by decide
    have hmodule : oneAliasFrom.bare.all (!occursIn (oneAliasFrom.base ++ ['.']) ·) = true := by
      decide
    have hword : hasWord importWord oneAliasFrom.source.text = false := by decide
    refine ⟨by decide, by decide, hword, ?_⟩
    rcases last_binding_kept_iff.2 oneAliasFrom (by decide) hword ["m.c".toList]
      (fun x hx => by simpa using List.all_eq_true.mp hmodule x hx) with
      hnone | ⟨order, -, hresult, hiff⟩
    · rw [hkept] at hnone
      exact absurd hnone.1 (by decide)
    · refine ⟨order, hresult, ?_⟩
      rw [hiff ['x'] (by decide), hkept]
      refine ⟨"b as x".toList, by decide, fun q hq _ => ?_⟩
      rcases List.mem_cons.mp hq with rfl | hq
      · decide
      · rw [List.mem_singleton.mp hq]
        decide

/-- A line whose module follows `from` at once. -/
def unspaced : NamesLine where
  clauses := [" b".toList, " a".toList]
  close := ['\n']
  ne_nil := by decide
  inline := by decide
  word_ends := by decide
  close_blank := all_isBlank_newline
  close_last := not_mem_dropLast_newline
  indent := []
  lead := []
  source := {
    SourceModule.single ['m'] isIdentifier_m with
    points := 1
    some_part := Or.inl (by decide) }
  gap := [' ']
  indent_margin := isMargin_nil
  lead_margin := isMargin_nil
  source_begins := Or.inr (by decide)
  gap_margin := isMargin_space
  source_ends := Or.inl (by decide)

/-- Two clauses under one name change places, and the other one has the last word. A module with the
letters of `import` behind a mark is cut there, a clause loses the module inside of it, and without
a blank after `from` there is no result. -/
theorem later_clause_rebinds :
    (oneAlias.line = "import b as x, a as x\n".toList ∧
      breakUp oneAlias.line = .ok "import a as x\nimport b as x\n".toList ∧
      lastBinding ['x'] oneAlias.bare = some "a as x".toList ∧
      lastBinding ['x'] ((lines "import a as x\nimport b as x\n".toList).flatMap clauses) =
        some "b as x".toList) ∧
    (∃ l : NamesLine, l.line = "from m import b as x, a as x\n".toList ∧
      filterFrom l.line [] = .ok (withNames l.line l.before ["a as x".toList, "b as x".toList]) ∧
      lastBinding ['x'] l.bare = some "a as x".toList ∧
      lastBinding ['x'] ["a as x".toList, "b as x".toList] = some "b as x".toList) ∧
    (∃ l : NamesLine, l.line = "from x\u0301import import a, b\n".toList ∧
      filterFrom l.line [] = .ok "from x\u0301import b, import a\n".toList) ∧
    (∃ l : NamesLine, l.line = "from m import x.m.y\n".toList ∧
      filterFrom l.line [] = .ok "from m import x.y\n".toList) ∧
    unspaced.line = "from.m import b, a\n".toList ∧
      filterFrom unspaced.line [] = .error .noModule := by
  refine ⟨⟨by decide, by cbv, by decide, by cbv⟩, ?_, ?_, ?_, by decide, by cbv⟩
  · exact ⟨.spaced (.single ['m'] (isIdentifier_singleton (by decide)))
      [" b as x".toList, " a as x".toList] (by decide) (by decide) (by decide),
      by decide, by cbv, by decide, by decide⟩
  · have hcut : cutAtWord? importWord false "from x\u0301import import a, b\n".toList =
        some ("from x\u0301".toList, " import a, b\n".toList) := by decide +kernel
    have hbase : baseModule? false "from x\u0301".toList = some "x\u0301".toList := by
      decide +kernel
    have hkept : keptNames "x\u0301".toList " import a, b\n".toList [] =
        ["import a".toList, "b".toList] := by decide +kernel
    have hsort : sort ["import a".toList, "b".toList] = ["b".toList, "import a".toList] := by cbv
    have hline : (NamesLine.spaced (.single _ isIdentifier_marked) [" a".toList, " b".toList]
        (by decide) (by decide) (by decide)).line =
          "from x\u0301import import a, b\n".toList := by decide
    refine ⟨_, hline, ?_⟩
    rw [hline, filterFrom_of_cut [] hcut hbase, hkept, hsort]
    decide
  · exact ⟨.spaced (.single ['m'] (isIdentifier_singleton (by decide))) [" x.m.y".toList]
      (by decide) (by decide) (by decide), by decide, by cbv⟩

end Pruner.Import
