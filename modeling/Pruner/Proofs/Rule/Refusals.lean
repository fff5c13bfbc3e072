import Pruner.Proofs.Import.Grammar
import Pruner.Proofs.Literal.Breaks
import Pruner.Proofs.Rule.AssignedValue
import Pruner.Proofs.Rule.Packages

namespace Pruner.Import

open Pruner.Text Pruner.Line

section Modules

/-- A text is the word `from`, blanks, and something that starts with no space. -/
def ModuleFollows (t : Text) : Prop :=
  ∃ gap m : Text, t = fromWord ++ (gap ++ m) ∧ gap ≠ [] ∧ (∀ c ∈ gap, isBlank c = true) ∧
    ∃ c ∈ m.head?, c ≠ ' '

/-- Behind a word `from` of the text stand blanks, and then something that starts with no space. -/
def NamesModule (inside : Bool) (t : Text) : Prop :=
  ∃ a rest : Text, t = a ++ rest ∧ endsInside inside a = false ∧ ModuleFollows rest

theorem moduleAfterFrom?_isSome_iff {t : Text} :
    (moduleAfterFrom? t).isSome = true ↔ ModuleFollows t := by
  rw [moduleAfterFrom?]
  constructor
  · intro h
    split at h
    · rename_i hstarts
      obtain ⟨rest, rfl⟩ := List.isPrefixOf_iff_prefix.mp hstarts
      rw [List.drop_left, Option.isSome_map, List.find?_isSome] at h
      obtain ⟨n, hn, hhead⟩ := h
      obtain ⟨k, hk, rfl⟩ := List.mem_map.mp hn
      rw [List.mem_reverse, List.mem_range] at hk
      have hlength := (List.takeWhile_prefix isBlank : rest.takeWhile isBlank <+: rest).length_le
      refine ⟨rest.take (k + 1), rest.drop (k + 1), by rw [List.take_append_drop], ?_, ?_, ?_⟩
      · apply List.ne_nil_of_length_pos
        rw [List.length_take]
        omega
      · intro c hc
        rw [← List.takeWhile_append_dropWhile (p := isBlank) (l := rest),
          List.take_append_of_le_length hk] at hc
        exact List.mem_takeWhile_imp (List.mem_of_mem_take hc)
      · obtain ⟨c, hc, hspace⟩ := (Option.any_eq_true _ _).mp hhead
        exact ⟨c, hc, by simpa using hspace⟩
    · contradiction
  · rintro ⟨gap, m, rfl, hne, hgap, c, hc, hspace⟩
    rw [if_pos (by simp [startsWith]), List.drop_left, Option.isSome_map, List.find?_isSome]
    have hpos := List.length_pos_of_ne_nil hne
    refine ⟨gap.length, List.mem_map.mpr ⟨gap.length - 1, ?_, by omega⟩, ?_⟩
    · rw [List.mem_reverse, List.mem_range, List.takeWhile_append_of_pos hgap, List.length_append]
      omega
    · rw [List.drop_left]
      exact (Option.any_eq_true _ _).mpr ⟨c, hc, by simpa using hspace⟩

theorem namesModule_cons {inside : Bool} {c : Char} {cs : Text} :
    NamesModule inside (c :: cs) ↔
      inside = false ∧ ModuleFollows (c :: cs) ∨ NamesModule (isWord c) cs := by
  constructor
  · rintro ⟨a, rest, hsplit, hends, hfollows⟩
    cases a with
    | nil => exact Or.inl ⟨hends, hsplit ▸ hfollows⟩
    | cons d a =>
      obtain ⟨rfl, rfl⟩ := List.cons.inj hsplit
      rw [endsInside_cons] at hends
      exact Or.inr ⟨a, rest, rfl, hends, hfollows⟩
  · rintro (⟨hinside, hfollows⟩ | ⟨a, rest, rfl, hends, hfollows⟩)
    · exact ⟨[], c :: cs, rfl, hinside, hfollows⟩
    · exact ⟨c :: a, rest, rfl, by rw [endsInside_cons]; exact hends, hfollows⟩

/-- The module of a `from` import is found exactly where one is named behind a blank. -/
theorem baseModule?_isSome_iff {inside : Bool} {t : Text} :
    (baseModule? inside t).isSome = true ↔ NamesModule inside t := by
  induction t generalizing inside with
  | nil =>
    refine iff_of_false Bool.false_ne_true ?_
    rintro ⟨a, rest, hsplit, -, gap, m, rfl, -⟩
    simp [fromWord] at hsplit
  | cons c cs ih =>
    rw [baseModule?, namesModule_cons, ← ih, ← moduleAfterFrom?_isSome_iff]
    cases inside with
    | true => simp
    | false =>
      cases hmodule : moduleAfterFrom? (c :: cs) with
      | some m => simp
      | none => simp

end Modules

section Imports

variable {line previous : Text} {removeAll : Bool} {unused allowed : List Text} {fault : Fault}

/-- Why the rule for imports gives up on a line. -/
inductive Refuses (line : Text) (removeAll : Bool) (allowed : List Text) : Fault → Prop
  /-- Several modules are to be put on lines of their own, but there is a comment. -/
  | comment (opens : OpensWith importWord line) (comma : ',' ∈ line) (hash : '#' ∈ line) :
      Refuses line removeAll allowed .unexpectedForm
  /-- The package is looked for in the second word, but there is only one. -/
  | single (opens : OpensWith fromWord line) (short : (words line).length < 2) :
      Refuses line removeAll allowed .noPackage
  /-- Names are to be dropped, but the module is not found behind a blank. -/
  | nameless {first second before after : Text} {rest : List Text} (opens : OpensWith fromWord line)
      (package : words line = first :: second :: rest)
      (touched : removeAll = true ∨ second.takeWhile (· != '.') ∈ allowed) (comma : ',' ∈ line)
      (cut : cutAtWord? importWord false line = some (before, after))
      (unnamed : ¬NamesModule false before) : Refuses line removeAll allowed .noModule

theorem hasForbidden_of_whole (h : isPartialImport line previous = false) :
    hasForbidden line = false := by
  simp only [isPartialImport, isPartial, Bool.or_eq_false_iff] at h
  rw [hasForbidden, h.1.1.1, h.1.1.2, h.2.1.1.1.1, h.2.1.1.2]
  rfl

theorem startsWith_of_opens (h : OpensWith importWord line ∨ OpensWith fromWord line) :
    (startsWith importWord (trimLeft line) || isFrom line) = true := by
  rcases h with h | h
  · obtain ⟨-, after, hafter, -⟩ := startsWord_iff.mp h
    rw [hafter]
    simp [startsWith]
  · rw [h.isFrom, Bool.or_true]

section Package

variable (hwhole : isPartialImport line previous = false)
  (hopens : OpensWith importWord line ∨ OpensWith fromWord line)
include hwhole hopens

theorem package_of_whole {first second : Text} {rest : List Text}
    (hwords : words line = first :: second :: rest) :
    package line = .ok (some (second.takeWhile (· != '.'))) := by
  rw [package, hasForbidden_of_whole hwhole, if_neg Bool.false_ne_true,
    if_pos (startsWith_of_opens hopens), hwords]

theorem package_of_short (hwords : (words line).length < 2) :
    package line = .error .noPackage := by
  rw [package, hasForbidden_of_whole hwhole, if_neg Bool.false_ne_true,
    if_pos (startsWith_of_opens hopens)]
  split
  · rename_i hsplit
    rw [hsplit, List.length_cons, List.length_cons] at hwords
    omega
  · rfl

end Package

/-- What becomes of a complete import once its package is known. -/
theorem filterUnused_of_package {name : Text} (hwhole : isPartialImport line previous = false)
    (hplain : (line.contains ',' && !isFrom line) = false)
    (hpackage : package line = .ok (some name)) :
    filterUnused line unused removeAll allowed previous =
      if removeAll = true ∨ name ∈ allowed then
        if ',' ∈ line then filterFrom line unused else .ok (passFor line)
      else .ok line := by
  rw [filterUnused, hwhole, if_neg Bool.false_ne_true, hplain, if_neg Bool.false_ne_true, hpackage]
  by_cases hremove : removeAll = true
  · simp [hremove, bind, Except.bind]
  · by_cases hname : name ∈ allowed <;> simp [hremove, hname, bind, Except.bind]

/-- An import of modules is refused only for a comment. -/
theorem filterUnused_modules_error (hopens : OpensWith importWord line)
    (hwords : ∃ first second rest, words line = first :: second :: rest)
    (hwhole : isPartialImport line previous = false) :
    filterUnused line unused removeAll allowed previous = .error fault ↔
      ',' ∈ line ∧ '#' ∈ line ∧ fault = .unexpectedForm := by
  have hfrom := hopens.not_isFrom
  by_cases hcomma : ',' ∈ line
  · -- The clauses go on lines of their own. The word `import` is there, so only a comment is in the way.
    rw [filterUnused_of_modules unused allowed removeAll hwhole hcomma hfrom, breakUp,
      hasForbidden_of_whole hwhole, hfrom]
    by_cases hhash : '#' ∈ line
    · simp [hhash, hcomma, eq_comm]
    · obtain ⟨a, after, -, -, hcut⟩ := hopens.cut
      rw [hcut]
      by_cases hending : (ending line).isEmpty = true
      · simp [hhash, hending]
      · simp [hhash, hending]
  · obtain ⟨first, second, rest, hsplit⟩ := hwords
    have hpackage := package_of_whole hwhole (Or.inl hopens) hsplit
    rw [filterUnused_of_package hwhole (by simp [hcomma]) hpackage]
    simp only [hcomma, if_false, false_and, iff_false]
    split
    · simp
    · simp

theorem filterFrom_error {before after : Text}
    (hcut : cutAtWord? importWord false line = some (before, after)) :
    filterFrom line unused = .error fault ↔ ¬NamesModule false before ∧ fault = .noModule := by
  rw [← baseModule?_isSome_iff]
  cases hbase : baseModule? false before with
  | none => simp [filterFrom, hcut, hbase, eq_comm]
  | some base =>
    rw [filterFrom_of_cut unused hcut hbase]
    simp

/-- An import of names is refused if it has one word only, or if its names are to be dropped but its
module is not found. -/
theorem filterUnused_names_error (hopens : OpensWith fromWord line)
    (hcut : (cutAtWord? importWord false line).isSome = true)
    (hwhole : isPartialImport line previous = false) :
    filterUnused line unused removeAll allowed previous = .error fault ↔
      Refuses line removeAll allowed fault := by
  have hplain : (line.contains ',' && !isFrom line) = false := by
    rw [hopens.isFrom]
    simp
  have hother : ¬OpensWith importWord line := fun hmodules => hmodules.not_from hopens
  obtain ⟨⟨before, after⟩, hcut⟩ := Option.isSome_iff_exists.mp hcut
  by_cases hshort : (words line).length < 2
  · -- Without a second word the package is not known, and neither option is looked at.
    rw [filterUnused, hwhole, if_neg Bool.false_ne_true, hplain, if_neg Bool.false_ne_true,
      package_of_short hwhole (Or.inr hopens) hshort]
    constructor
    · intro h
      cases h
      exact .single hopens hshort
    · intro h
      cases h with
      | comment hmodules => exact absurd hmodules hother
      | single => rfl
      | nameless _ hsplit =>
        rw [hsplit, List.length_cons, List.length_cons] at hshort
        omega
  · rcases hsplit : words line with _ | ⟨first, _ | ⟨second, rest⟩⟩
    · simp [hsplit] at hshort
    · simp [hsplit] at hshort
    · rw [filterUnused_of_package hwhole hplain (package_of_whole hwhole (Or.inr hopens) hsplit)]
      constructor
      · intro h
        split at h
        · rename_i htouched
          split at h
          · rename_i hcomma
            obtain ⟨hunnamed, rfl⟩ := (filterFrom_error hcut).mp h
            exact .nameless hopens hsplit htouched hcomma hcut hunnamed
          · contradiction
        · contradiction
      · intro h
        cases h with
        | comment hmodules => exact absurd hmodules hother
        | single _ hwords => exact absurd hwords hshort
        | nameless _ hwords htouched hcomma hcut' hunnamed =>
          rw [hsplit] at hwords
          obtain ⟨-, hwords⟩ := List.cons.inj hwords
          obtain ⟨rfl, -⟩ := List.cons.inj hwords
          rw [if_pos htouched, if_pos hcomma]
          exact (filterFrom_error hcut').mpr ⟨hunnamed, rfl⟩

/-- The rule for imports gives up on a parsed import only in the foreseen ways. -/
theorem ParsedImport.filterUnused_error_iff (l : ParsedImport) :
    filterUnused l.line unused removeAll allowed previous = .error fault ↔
      isPartialImport l.line previous = false ∧ Refuses l.line removeAll allowed fault := by
  by_cases hwhole : isPartialImport l.line previous = true
  · rw [filterUnused, if_pos hwhole, hwhole]
    simp
  · rw [Bool.not_eq_true] at hwhole
    simp only [hwhole, true_and]
    rcases l.opens with ⟨hopens, hwords⟩ | ⟨hopens, hcut⟩
    · rw [filterUnused_modules_error hopens hwords hwhole]
      constructor
      · rintro ⟨hcomma, hhash, rfl⟩
        exact .comment hopens hcomma hhash
      · intro h
        cases h with
        | comment _ hcomma hhash => exact ⟨hcomma, hhash, rfl⟩
        | single hnames => exact absurd hnames hopens.not_from
        | nameless hnames => exact absurd hnames hopens.not_from
    · exact filterUnused_names_error hopens hcut hwhole

end Imports

end Pruner.Import

namespace Pruner.Variable

open Pruner.Text Pruner.Line Pruner.Syntax

theorem exists_pieces_of_mem {sep : Char} {t : Text} (h : sep ∈ t) :
    ∃ first second rest, pieces (· == sep) t = first :: second :: rest := by
  obtain ⟨s, after, rfl, hs⟩ := List.eq_append_cons_of_mem h
  have hne : pieces (· == sep) after ≠ [] := by
    rw [pieces_eq_splitOnP]
    exact List.splitOnP_ne_nil _ _
  obtain ⟨second, rest, hrest⟩ := List.exists_cons_of_ne_nil hne
  exact ⟨s, second, rest, by rw [pieces_separator hs, hrest]⟩

theorem isLiteralOrName_eq_error {value : Text} {fault : Fault} :
    isLiteralOrName value = .error fault ↔
      ∃ err, Literal.ofText value = .error err ∧ Fault.ofLiteralError? err = some fault := by
  rw [isLiteralOrName]
  cases Literal.ofText value with
  | ok v => simp
  | error err => cases err <;> simp [Fault.ofLiteralError?]

/-- A value that starts with something visible is refused if a display in it cannot be built. -/
theorem isLiteralOrName_breaks {value : Text} {fault : Fault}
    (hstart : ∀ c ∈ value.head?, isBlank c = false) :
    isLiteralOrName value = .error fault ↔
      ∃ e err, parseExpression? value = some e ∧ Literal.Breaks e err ∧
        Fault.ofLiteralError? err = some fault := by
  rw [isLiteralOrName_eq_error, ofText_of_head hstart]
  have hcaught {err : LiteralError} (h : Fault.ofLiteralError? err = some fault) :
      err ≠ .malformed := by
    rintro rfl
    contradiction
  cases parseExpression? value with
  | none =>
    refine iff_of_false ?_ ?_
    · rintro ⟨err, herr, hfault⟩
      exact hcaught hfault (Except.error.inj herr).symm
    · rintro ⟨e, err, he, -⟩
      contradiction
  | some e =>
    constructor
    · rintro ⟨err, herr, hfault⟩
      exact ⟨e, err, rfl, (Literal.eval_eq_error_iff (hcaught hfault)).mp herr, hfault⟩
    · rintro ⟨e', err, he, hbreaks, hfault⟩
      obtain rfl := Option.some.inj he
      exact ⟨err, (Literal.eval_eq_error_iff (hcaught hfault)).mpr hbreaks, hfault⟩

/-- The rule for variables gives up on an assignment only for such a display. -/
theorem filterUnused_error_iff {target value previous : Text} {fault : Fault}
    (htarget : '=' ∉ target) (hsingle : ',' ∉ target) :
    filterUnused (target ++ '=' :: value) previous = .error fault ↔
      isPartial (target ++ '=' :: value) previous = false ∧ '=' ∉ value ∧
        ∃ e err, parseExpression? (trimLeft value) = some e ∧ Literal.Breaks e err ∧
          Fault.ofLiteralError? err = some fault := by
  rw [filterUnused, dropExceptName?_of_equals (by simp), pieces_separator htarget]
  dsimp only
  by_cases hpartial : isPartial (target ++ '=' :: value) previous = true
  · simp [hpartial]
  rw [if_neg hpartial]
  rw [Bool.not_eq_true] at hpartial
  by_cases hequals : '=' ∈ value
  · -- With another equals sign, as in a comparison, the line stays as it is.
    obtain ⟨first, second, rest, hpieces⟩ := exists_pieces_of_mem hequals
    rw [hpieces]
    simp [hequals]
  · rw [pieces_of_not_mem hequals, ← isLiteralOrName_breaks (trimLeft_head value)]
    dsimp only
    rw [if_neg (by simpa using hsingle)]
    cases isLiteralOrName (trimLeft value) with
    | error f => simp [hpartial, hequals, bind, Except.bind]
    | ok found => cases found <;> simp [bind, Except.bind]

end Pruner.Variable

namespace Pruner

open Pruner.Text Pruner.Line Pruner.Syntax

/-- The rules for single lines give up on a statement that they are meant for exactly if it imports in
one of three forms, or assigns a display that cannot be built. They edit all others. -/
theorem line_rules_give_up_iff (fault : Fault) (previous : Text) :
    (∀ (l : Import.ParsedImport) (unused allowed : List Text) (removeAll : Bool),
      Import.filterUnused l.line unused removeAll allowed previous = .error fault ↔
        isPartialImport l.line previous = false ∧ Import.Refuses l.line removeAll allowed fault) ∧
    ∀ target value : Text, '=' ∉ target → ',' ∉ target →
      (Variable.filterUnused (target ++ '=' :: value) previous = .error fault ↔
        isPartial (target ++ '=' :: value) previous = false ∧ '=' ∉ value ∧
          ∃ e err, parseExpression? (trimLeft value) = some e ∧ Literal.Breaks e err ∧
            Fault.ofLiteralError? err = some fault) :=
  ⟨fun l _ _ _ => l.filterUnused_error_iff,
    fun _ _ htarget hsingle => Variable.filterUnused_error_iff htarget hsingle⟩

/-- The line `from.m import a, b`. -/
def tightImport : Import.ParsedImport where
  indent := []
  body := "from.m import a, b".toList
  ending := ['\n']
  margin := by simp
  starts := ⟨'f', rfl, by decide⟩
  one_line := ⟨by decide, by decide, by decide⟩
  lexemes := [.keyword "from", .op ".", .word "m", .keyword "import", .word "a", .op ",",
    .word "b"].map (⟨·, 1⟩) ++ lineEnd
  stmt := .importFrom 1 1 (some "m") [⟨"a", none⟩, ⟨"b", none⟩]
  lexes := by decide +kernel
  parses := Or.inr rfl

/-- Names that are imported from a module without a blank before it are not edited, and a set of
lists is not dropped. -/
theorem tight_import_refused :
    Import.filterUnused tightImport.line [] true [] [] = .error .noModule ∧
      Variable.filterUnused "x = \x7b[]\x7d\n".toList [] = .error (.unhashable .list) := by
  have himport : Import.Refuses tightImport.line true [] .noModule := by
    have hcut : cutAtWord? Import.importWord false tightImport.line =
        some ("from.m ".toList, " a, b\n".toList) := by decide
    have hwords : words tightImport.line = ["from.m", "import", "a,", "b"].map String.toList := by
      decide
    have hunnamed : ¬Import.NamesModule false "from.m ".toList := by
      rw [← Import.baseModule?_isSome_iff]
      decide
    have hopens : Import.OpensWith Import.fromWord tightImport.line := by
      unfold Import.OpensWith
      decide
    exact .nameless hopens hwords (Or.inl rfl) (by decide) hcut hunnamed
  -- Braces are written by their codes.
  have hlex : lex? 1 "\x7b[]\x7d\n".toList =
      some ([.op "\x7b", .op "[", .op "]", .op "\x7d"].map (⟨·, 1⟩) ++ lineEnd) := by decide +kernel
  have htrim : trimLeft " \x7b[]\x7d\n".toList = "\x7b[]\x7d\n".toList := by decide
  have hparse : parseExpression? (trimLeft " \x7b[]\x7d\n".toList) = some (.set [.list []]) := by
    rw [htrim, parseExpression?, hlex]
    rfl
  have hset : Literal.Clashes (.set ([] ++ .list [] :: [])) (.unhashable .list) :=
    .element (by simp) rfl rfl
  constructor
  · apply ((line_rules_give_up_iff .noModule []).1 tightImport [] [] true).mpr
    exact ⟨by decide +kernel, himport⟩
  · apply ((line_rules_give_up_iff (.unhashable .list) []).2 "x ".toList " \x7b[]\x7d\n".toList
      (by decide) (by decide)).mpr
    exact ⟨by decide +kernel, by decide, _, _, hparse, .here hset, rfl⟩

end Pruner
