import Pruner.Proofs.Fix.DiagnosticOrder
import Pruner.Proofs.Rule.Entry
import Pruner.Proofs.Scope.RepeatedKey

/-!
Removal of repeated keys from a dictionary with one entry on each line.

A round removes only one line: the first entry whose key is reported. So the last entry of every key
stays, and the rounds end when no key is reported any more. If the values of a key all differ, then
it is reported as long as it has two entries.
-/
namespace Pruner.DuplicateKey

open Pruner.Text Pruner.Fix Pruner.Token Pruner.Syntax
open Pruner.Scope (isRepeated isRepeated_congr isRepeated_of_pairwise keyReport mem_keyReport valuesOf
  valuesOf_congr)

section Round

variable {entries : List Entry} {options : Options} {ds : List Diagnostic}

/-- The marks ask for the removal of entries with repeated keys, and for nothing else. -/
structure Marked (entries : List Entry) (m : Marks) : Prop where
  imports : m.imports = []
  assignments : m.assignments = []
  stars : m.stars = []
  keys : ∀ n, n ∈ m.keys ↔ ∃ i e, entries[i]? = some e ∧
    isRepeated (entries.map Entry.pair) e.pair.1 = true ∧ n = ((i + 2 : Nat) : Int)

theorem mem_of_perm_keyReport (hds : ds.Perm (keyReport (entries.map Entry.pair))) {d : Diagnostic} :
    d ∈ ds ↔ ∃ i e, entries[i]? = some e ∧
      isRepeated (entries.map Entry.pair) e.pair.1 = true ∧
        d = ⟨((i + 2 : Nat) : Int), .repeatedKey e.pair.1⟩ := by
  rw [hds.mem_iff, mem_keyReport]
  simp only [List.getElem?_map, Option.map_eq_some_iff]
  constructor
  · rintro ⟨i, -, ⟨e, he, rfl⟩, hrepeated, hd⟩
    exact ⟨i, e, he, hrepeated, hd⟩
  · rintro ⟨i, e, he, hrepeated, hd⟩
    exact ⟨i, e.pair, ⟨e, he, rfl⟩, hrepeated, hd⟩

theorem selections_of_repeated (h : ∀ d ∈ ds, ∃ key, d.problem = .repeatedKey key) :
    Diagnostic.unusedImportLines ds = [] ∧ Diagnostic.unusedVariableLines ds = [] ∧
      Diagnostic.starUsages ds = [] := by
  refine ⟨?_, ?_, ?_⟩ <;>
  · refine List.filterMap_eq_nil_iff.mpr fun d hd => ?_
    obtain ⟨key, hkey⟩ := h d hd
    rw [hkey]

theorem exists_marks (hds : ds.Perm (keyReport (entries.map Entry.pair)))
    (hremove : options.removeDuplicateKeys = true) :
    ∃ m, marks options (render entries) ds = .ok m ∧ Marked entries m := by
  have hproblem : ∀ d ∈ ds, ∃ key, d.problem = .repeatedKey key := by
    intro d hd
    obtain ⟨i, e, -, -, rfl⟩ := (mem_of_perm_keyReport hds).mp hd
    exact ⟨e.pair.1, rfl⟩
  -- Every reported line is an entry with the reported key.
  have halone (n : Int) (key : Key) (hd : ⟨n, .repeatedKey key⟩ ∈ ds) :
      standsAlone (pieces (· == '\n') (render entries)) (n, key) = .ok true := by
    obtain ⟨i, e, he, -, hd⟩ := (mem_of_perm_keyReport hds).mp hd
    obtain ⟨rfl, rfl⟩ : n = ((i + 2 : Nat) : Int) ∧ key = e.pair.1 := by simpa using hd
    exact standsAlone_entry he
  obtain ⟨himports, hvariables, husages⟩ := selections_of_repeated hproblem
  obtain ⟨names, hnames⟩ : ∃ names, Diagnostic.unusedImportNames ds = .ok names := by
    rw [exists_unusedImportNames_iff]
    intro n name hd
    obtain ⟨key, hkey⟩ := hproblem _ hd
    simp at hkey
  obtain ⟨keys, hkeys⟩ : ∃ keys, removableLines ds (render entries) = .ok keys :=
    exists_removableLines_iff.mpr fun n key hd => ⟨true, halone n key hd⟩
  refine ⟨⟨[], names, [], [], [], keys⟩, marks_eq_ok.mpr ⟨himports.symm, hnames, ?_, ?_, ?_, ?_⟩,
    rfl, rfl, rfl, ?_⟩
  · simp [markedStars, husages]
  · simp [husages]
  · simp [hvariables]
  · rw [if_pos hremove, hkeys]
  · intro n
    rw [mem_removableLines hkeys]
    constructor
    · rintro ⟨key, hd, -⟩
      obtain ⟨i, e, he, hrepeated, hd⟩ := (mem_of_perm_keyReport hds).mp hd
      obtain ⟨rfl, -⟩ : n = ((i + 2 : Nat) : Int) ∧ key = e.pair.1 := by simpa using hd
      exact ⟨i, e, he, hrepeated, rfl⟩
    · rintro ⟨i, e, he, hrepeated, rfl⟩
      refine ⟨e.pair.1, (mem_of_perm_keyReport hds).mpr ⟨i, e, he, hrepeated, rfl⟩, ?_⟩
      intro n' key' hd' _
      exact halone n' key' hd'

/-- With such marks only the rule for repeated keys looks at a line. -/
theorem Marked.editLine {m : Marks} (hm : Marked entries m) {number : Nat} {previous line : Text}
    (hline : '#' ∉ line) :
    Fix.editLine options m number previous line = .ok (filterMarked line number m.keys) := by
  have hhash : line.contains '#' = false := by simpa using hline
  rw [Fix.editLine, hhash, hm.imports, hm.assignments, hm.stars]
  by_cases hmem : (number : Int) ∈ m.keys
  · simp [hmem]
  · simp [hmem, filterMarked]

/-- A round gives the pieces that the rule for repeated keys makes of the lines. -/
theorem Marked.round {m : Marks} (hm : Marked entries m)
    (hmarks : marks options (render entries) ds = .ok m) (ps : List Text) {left : List Entry}
    (hps : ps.flatten = render left) (hlen : ps.length = (dictionaryLines entries).length)
    (hpiece : ∀ i line piece, (dictionaryLines entries)[i]? = some line → ps[i]? = some piece →
      filterMarked line ((1 + i : Nat) : Int) m.keys = piece) :
    Fix.round options ds (render entries) = .ok (render left) := by
  refine round_eq_ok.mpr ⟨ps, filterCode_eq_ok.mpr ⟨m, hmarks, ?_⟩, ?_⟩
  · rw [lines_render, editLines_eq_ok]
    refine ⟨hlen, fun i line before piece hline _ hp => ?_⟩
    rw [hm.editLine (hash_not_mem_line (List.mem_of_getElem? hline)), hpiece i line piece hline hp]
  · rw [hps, filter_render]

/-- A round changes nothing if no key is reported. -/
theorem round_of_settled (hds : ds.Perm (keyReport (entries.map Entry.pair)))
    (hremove : options.removeDuplicateKeys = true)
    (h : ∀ e ∈ entries, isRepeated (entries.map Entry.pair) e.pair.1 = false) :
    Fix.round options ds (render entries) = .ok (render entries) := by
  obtain ⟨m, hmarks, hm⟩ := exists_marks hds hremove
  have hkeys (n : Int) : n ∉ m.keys := by
    rw [hm.keys]
    rintro ⟨i, e, he, hrepeated, -⟩
    rw [h e (List.mem_of_getElem? he)] at hrepeated
    contradiction
  refine hm.round hmarks (dictionaryLines entries) rfl rfl fun i line piece hline hp => ?_
  obtain rfl : line = piece := Option.some.inj (hline.symm.trans hp)
  simp [filterMarked, hkeys]

/-- Of the marked lines only the first goes. -/
theorem filterMarked_of_least {first : Nat} {marked : List Int} (hmem : (first : Int) ∈ marked)
    (hleast : ∀ n ∈ marked, (first : Int) ≤ n) (number : Nat) (line : Text) :
    filterMarked line number marked = if number = first then [] else line := by
  rw [filterMarked]
  by_cases hnumber : number = first
  · subst hnumber
    rw [if_pos rfl, if_pos]
    simpa using ⟨hmem, hleast⟩
  · rw [if_neg hnumber, if_neg]
    intro hboth
    simp only [Bool.and_eq_true, List.contains_iff_mem, List.all_eq_true,
      decide_eq_true_eq] at hboth
    have hge := hleast _ hboth.1
    have hle := hboth.2 _ hmem
    omega

/-- A round removes the first entry whose key is reported. -/
theorem round_of_first {before after : List Entry} {e : Entry}
    (hentries : entries = before ++ e :: after)
    (hds : ds.Perm (keyReport (entries.map Entry.pair)))
    (hremove : options.removeDuplicateKeys = true)
    (he : isRepeated (entries.map Entry.pair) e.pair.1 = true)
    (hbefore : ∀ b ∈ before, isRepeated (entries.map Entry.pair) b.pair.1 = false) :
    Fix.round options ds (render entries) = .ok (render (before ++ after)) := by
  obtain ⟨m, hmarks, hm⟩ := exists_marks hds hremove
  have hmem : ((before.length + 2 : Nat) : Int) ∈ m.keys :=
    (hm.keys _).mpr ⟨before.length, e, by simp [hentries], he, rfl⟩
  have hleast : ∀ n ∈ m.keys, ((before.length + 2 : Nat) : Int) ≤ n := by
    intro n hn
    obtain ⟨i, b, hb, hrepeated, rfl⟩ := (hm.keys n).mp hn
    by_contra hlt
    have hi : i < before.length := by omega
    rw [hentries, List.getElem?_append_left hi] at hb
    rw [hbefore b (List.mem_of_getElem? hb)] at hrepeated
    contradiction
  have hlines : dictionaryLines entries =
      (['\x7b', '\n'] :: before.map Entry.line) ++
        e.line :: (after.map Entry.line ++ [['\x7d', '\n']]) := by
    simp [dictionaryLines, hentries]
  -- The piece of the removed entry is empty, the others are the lines.
  refine hm.round hmarks ((dictionaryLines entries).set (before.length + 1) []) ?_ (by simp)
    fun i line piece hline hp => ?_
  · rw [hlines, List.set_append_right _ _ (by simp)]
    simp [render, dictionaryLines]
  · rw [filterMarked_of_least hmem hleast]
    rw [List.getElem?_set] at hp
    by_cases hi : before.length + 1 = i
    · rw [if_pos hi] at hp
      split at hp
      · rw [if_pos (by omega)]
        exact Option.some.inj hp
      · contradiction
    · rw [if_neg hi] at hp
      rw [if_neg (by omega)]
      exact Option.some.inj (hline.symm.trans hp)

end Round

section Reading

/-- A literal, read back from its text. -/
def readLiteral? (number : Nat) (t : Text) : Option Expr :=
  match Literal.ofText t with
  | .ok (.constant c) => some (.constant number c)
  | _ => none

/-- A value, read back from its text: what does not start with a digit is a name. -/
def readValue? (number : Nat) (t : Text) : Option Expr :=
  if t.head?.any isDigit then readLiteral? number t
  else some (.name number (String.ofList (normalForm t)) .load)

/-- An entry, read back from its line. -/
def readLine? (line : Text × Nat) : Option (Expr × Expr) := do
  let (key, value) ← entryParts? line.1
  return (← readLiteral? line.2 key, ← readValue? line.2 value)

/-- A check that reads a dictionary back and reports its repeated keys. -/
def readReport (source : Text) : List Diagnostic :=
  let entries := ((pieces (· == '\n') source).zipIdx 1).filterMap readLine?
  (Scope.repeatedKeys (entries.map (some ·.1)) (entries.map (·.2))).map fun (number, k) =>
    ⟨number, .repeatedKey k⟩

theorem readLiteral?_text (number : Nat) (k : KeyText) :
    readLiteral? number k.text = some (.constant number k.constant) := by
  rw [readLiteral?, k.ofText_text]

theorem exists_readValue? (number : Nat) (v : ValueText) :
    ∃ e, readValue? number v.text = some e ∧ Scope.keyOf? e = some v.key := by
  cases v with
  | name id identifier free =>
    obtain ⟨c, cs, rfl, hc, -⟩ := identifier
    have hdigit : isDigit c = false := by
      rw [← Bool.not_eq_true]
      intro h
      have hcode := toNat_of_isDigit h
      rw [isIdentifierStart, if_pos (by omega)] at hc
      simp only [Bool.or_eq_true, Bool.and_eq_true, beq_iff_eq, decide_eq_true_eq] at hc
      omega
    refine ⟨.name number (String.ofList (normalForm (c :: cs))) .load, ?_, rfl⟩
    simp [readValue?, ValueText.text, hdigit]
  | decimal d =>
    obtain ⟨c, cs, htext, hc, -⟩ := d.exists_text
    have hhead : d.text.head?.any isDigit = true := by simp [htext, hc]
    refine ⟨.constant number (.int d.value), ?_, rfl⟩
    rw [readValue?, ValueText.text, hhead, if_pos rfl]
    exact readLiteral?_text number (.decimal d)

/-- The entries that are read back are those of the dictionary, each on its line. -/
theorem dictEntries_read (entries : List Entry) (number : Nat) :
    Scope.dictEntries
        ((((entries.map Entry.body).zipIdx number).filterMap readLine?).map (some ·.1))
        ((((entries.map Entry.body).zipIdx number).filterMap readLine?).map (·.2)) =
      ((entries.map Entry.pair).zipIdx number).map fun (p, n) => ⟨n, p.1, some p.2⟩ := by
  induction entries generalizing number with
  | nil => rfl
  | cons e entries ih =>
    obtain ⟨value, hvalue, hkey⟩ := exists_readValue? number e.value
    have hread : readLine? (e.body, number) =
        some (.constant number e.key.constant, value) := by
      simp [readLine?, e.entryParts?_body, readLiteral?_text, hvalue]
    rw [List.map_cons, List.zipIdx_cons, List.filterMap_cons_some hread, List.map_cons,
      List.map_cons, Scope.dictEntries, ih, hkey]
    rfl

theorem KeyText.constant_inj {k l : KeyText} (h : k.constant.same l.constant = true) :
    k.constant = l.constant := by
  cases k with
  | decimal d =>
    cases l with
    | decimal d' => simpa [constant, Constant.same, Constant.number?, RealNumber.same] using h
    | quoted q' _ => simp [constant, Quoted.value, Constant.same, Constant.number?] at h
  | quoted q _ =>
    cases l with
    | decimal d' => simp [constant, Quoted.value, Constant.same, Constant.number?] at h
    | quoted q' _ => simpa [constant, Quoted.value, Constant.same, Constant.number?] using h

theorem readReport_render (entries : List Entry) :
    (readReport (render entries)).Perm (keyReport (entries.map Entry.pair)) := by
  have hopen : readLine? (['\x7b'], 1) = none := by decide
  have hclose (n : Nat) : readLine? (['\x7d'], n) = none := rfl
  have hend (n : Nat) : readLine? ([], n) = none := rfl
  have hread : ((pieces (· == '\n') (render entries)).zipIdx 1).filterMap readLine? =
      ((entries.map Entry.body).zipIdx 2).filterMap readLine? := by
    rw [pieces_render]
    simp [List.zipIdx_append, hopen, hclose, hend]
  rw [readReport, hread]
  refine Scope.perm_keyReport (dictEntries_read entries 2) fun p hp => ?_
  obtain ⟨e, -, rfl⟩ := List.mem_map.mp hp
  refine ⟨⟨e.key.constant, rfl⟩, fun q hq hsame => ?_⟩
  obtain ⟨f, -, rfl⟩ := List.mem_map.mp hq
  exact congrArg Key.constant (KeyText.constant_inj hsame)

end Reading

section Run

/-- The entries with a key. -/
def withKey (k : Key) (entries : List Entry) : List Entry :=
  entries.filter (k.same ·.pair.1)

theorem withKey_append (k : Key) (entries more : List Entry) :
    withKey k (entries ++ more) = withKey k entries ++ withKey k more :=
  List.filter_append ..

theorem withKey_cons_of_same {k : Key} {e : Entry} (h : k.same e.pair.1 = true)
    (entries : List Entry) : withKey k (e :: entries) = e :: withKey k entries :=
  List.filter_cons_of_pos h

theorem withKey_cons_of_other {k : Key} {e : Entry} (h : ¬k.same e.pair.1 = true)
    (entries : List Entry) : withKey k (e :: entries) = withKey k entries :=
  List.filter_cons_of_neg h

theorem valuesOf_pairs (k : Key) (entries : List Entry) :
    valuesOf k (entries.map Entry.pair) = (withKey k entries).map (·.pair.2) := by
  rw [valuesOf, List.filter_map, List.map_map]
  rfl

/-- Entries may go as long as the last one of every key stays. -/
structure Thinned (entries left : List Entry) : Prop where
  sublist : left.Sublist entries
  last : ∀ k, (withKey k left).getLast? = (withKey k entries).getLast?

theorem Thinned.refl (entries : List Entry) : Thinned entries entries :=
  ⟨List.Sublist.refl entries, fun _ => rfl⟩

theorem Thinned.trans {first second third : List Entry} (h : Thinned first second)
    (h' : Thinned second third) : Thinned first third :=
  ⟨h'.sublist.trans h.sublist, fun k => (h'.last k).trans (h.last k)⟩

/-- The first entry whose key is reported is not the last one with its key. -/
theorem thinned_of_first {before after : List Entry} {e : Entry}
    (he : isRepeated ((before ++ e :: after).map Entry.pair) e.pair.1 = true)
    (hbefore : ∀ b ∈ before,
      isRepeated ((before ++ e :: after).map Entry.pair) b.pair.1 = false) :
    Thinned (before ++ e :: after) (before ++ after) := by
  refine ⟨(List.Sublist.refl before).append (List.sublist_cons_self e after), fun k => ?_⟩
  rw [withKey_append, withKey_append]
  by_cases hk : k.same e.pair.1 = true
  · -- All entries with this key are reported, so the first of them is `e`, and it is not the last.
    have hnone : withKey k before = [] := by
      rw [withKey, List.filter_eq_nil_iff]
      intro b hb hkb
      have hsame : b.pair.1.same e.pair.1 = true := Key.same_trans (Key.same_symm hkb) hk
      have hrepeated := hbefore b hb
      rw [isRepeated_congr hsame, he] at hrepeated
      contradiction
    have hmore : withKey k after ≠ [] := by
      intro hnil
      rw [isRepeated, ← valuesOf_congr hk, valuesOf_pairs, withKey_append, hnone,
        withKey_cons_of_same hk, hnil] at he
      simp at he
    obtain ⟨f, rest, hrest⟩ := List.exists_cons_of_ne_nil hmore
    rw [hnone, withKey_cons_of_same hk, hrest]
    simp
  · rw [withKey_cons_of_other hk]

/-- Once no key is reported, a key whose values all differ has one entry left. -/
theorem withKey_of_settled {left : List Entry}
    (hsettled : ∀ e ∈ left, isRepeated (left.map Entry.pair) e.pair.1 = false) {k : Key}
    (hvalues : (withKey k left).Pairwise fun e f => e.pair.2.same f.pair.2 = false) :
    withKey k left = (withKey k left).getLast?.toList := by
  have hlen : (withKey k left).length < 2 := by
    by_contra hlen
    have hmany : 2 ≤ (valuesOf k (left.map Entry.pair)).length := by
      rw [valuesOf_pairs, List.length_map]
      omega
    have hrepeated : isRepeated (left.map Entry.pair) k = true := by
      apply isRepeated_of_pairwise hmany
      rw [valuesOf_pairs, List.pairwise_map]
      exact hvalues
    obtain ⟨e, he⟩ := List.exists_mem_of_length_pos (show 0 < (withKey k left).length by omega)
    obtain ⟨hmem, hk⟩ := List.mem_filter.mp he
    rw [isRepeated_congr hk, hsettled e hmem] at hrepeated
    contradiction
  generalize withKey k left = found at hlen
  match found, hlen with
  | [], _ => rfl
  | [_], _ => rfl

variable {options : Options} {check : Nat → Text → List Diagnostic}

theorem render_ne {before after : List Entry} {e : Entry} :
    render (before ++ after) ≠ render (before ++ e :: after) := by
  intro h
  have hlines := congrArg (fun source => (lines source).length) h
  simp only [lines_render, dictionaryLines, List.length_cons, List.length_append,
    List.length_map] at hlines
  omega

/-- The rounds remove one entry after another until no key is reported. -/
theorem outcome_loop_render
    (hcheck : ∀ index entries,
      (check index (render entries)).Perm (keyReport (entries.map Entry.pair)))
    (hremove : options.removeDuplicateKeys = true) (entries : List Entry) :
    ∃ left, Thinned entries left ∧
      (∀ e ∈ left, isRepeated (left.map Entry.pair) e.pair.1 = false) ∧
      ∀ rounds index, entries.length < rounds →
        (loop options check rounds index (render entries)).outcome = .done (render left) := by
  induction hn : entries.length using Nat.strong_induction_on generalizing entries with
  | _ n ih =>
    cases hfind : entries.find? fun e => isRepeated (entries.map Entry.pair) e.pair.1 with
    | none =>
      have hsettled : ∀ e ∈ entries, isRepeated (entries.map Entry.pair) e.pair.1 = false := by
        simpa using hfind
      refine ⟨entries, Thinned.refl entries, hsettled, fun rounds index hrounds => ?_⟩
      obtain ⟨more, rfl⟩ : ∃ more, rounds = more + 1 := ⟨rounds - 1, by omega⟩
      rw [outcome_loop (round_of_settled (hcheck index entries) hremove hsettled), if_pos rfl]
    | some e =>
      -- The round removes the entry that was found, and the rest of the run is one for fewer entries.
      obtain ⟨he, before, after, rfl, hnone⟩ := List.find?_eq_some_iff_append.mp hfind
      have hbefore : ∀ b ∈ before,
          isRepeated ((before ++ e :: after).map Entry.pair) b.pair.1 = false := by
        simpa using hnone
      have hlen : (before ++ after).length < n := by
        simp only [List.length_append, List.length_cons] at hn ⊢
        omega
      obtain ⟨left, hthinned, hsettled, houtcome⟩ := ih _ hlen (before ++ after) rfl
      refine ⟨left, (thinned_of_first he hbefore).trans hthinned, hsettled, ?_⟩
      intro rounds index hrounds
      obtain ⟨more, rfl⟩ : ∃ more, rounds = more + 1 := ⟨rounds - 1, by omega⟩
      rw [outcome_loop (round_of_first rfl (hcheck index _) hremove he hbefore),
        if_neg render_ne]
      exact houtcome more (index + 1) (by omega)

/-- The removal of repeated keys ends after at most one round for each entry and one more. What is
left are entries of the dictionary in their order, the last one of every key among them, and of a
key whose values all differ only that one. -/
theorem fixCode_keeps_last_entries
    (hcheck : ∀ index entries,
      (check index (render entries)).Perm (keyReport (entries.map Entry.pair)))
    (hremove : options.removeDuplicateKeys = true) (entries : List Entry) :
    ∃ left, left.Sublist entries ∧
      (∀ rounds, entries.length < rounds →
        (fixCode options check rounds (render entries)).outcome = .done (render left)) ∧
      ∀ k, (withKey k left).getLast? = (withKey k entries).getLast? ∧
        ((withKey k entries).Pairwise (fun e f => e.pair.2.same f.pair.2 = false) →
          withKey k left = (withKey k entries).getLast?.toList) := by
  have hremove' : (effective options (render entries)).removeDuplicateKeys = true := by
    rw [effective]
    split <;> exact hremove
  obtain ⟨left, hthinned, hsettled, houtcome⟩ := outcome_loop_render hcheck hremove' entries
  refine ⟨left, hthinned.sublist, ?_, fun k => ⟨hthinned.last k, fun hvalues => ?_⟩⟩
  · intro rounds hrounds
    have hne : (render entries).isEmpty = false := rfl
    rw [fixCode, hne, if_neg Bool.false_ne_true]
    exact houtcome rounds 0 hrounds
  · rw [← hthinned.last k]
    exact withKey_of_settled hsettled (hvalues.sublist (hthinned.sublist.filter _))

end Run

/-- A key that is written in three ways, with three values, and between them one with one value. -/
def mixedEntries : List Entry :=
  [⟨.quoted ⟨[], by simp, '\'', by simp, false, ['a'], by simp, by simp⟩ (by simp),
      .decimal ⟨[['1']], by simp, by simp [isDigit], by simp, by simp [maxDigits]⟩⟩,
    ⟨.decimal ⟨[['1', '0']], by simp, by simp [isDigit], by simp, by simp [maxDigits]⟩,
      .name ['x'] ⟨'x', [], rfl, by decide, by simp⟩ (by decide)⟩,
    ⟨.quoted ⟨['r'], by simp, '"', by simp, false, ['a'], by simp, by simp⟩ (by simp),
      .name ['y'] ⟨'y', [], rfl, by decide, by simp⟩ (by decide)⟩,
    ⟨.decimal ⟨[['1'], ['0']], by simp, by simp [isDigit], by simp, by simp [maxDigits]⟩,
      .name ['x'] ⟨'x', [], rfl, by decide, by simp⟩ (by decide)⟩,
    ⟨.quoted ⟨[], by simp, '"', by simp, true, ['a'], by simp, by decide⟩ (by simp),
      .decimal ⟨[['0']], by simp, by simp [isDigit], by simp, by simp⟩⟩]

theorem fixCode_keeps_last_entries_mixed :
    render mixedEntries = ("\x7b\n    'a': 1,\n    10: x,\n    r\"a\": y,\n    1_0: x,\n" ++
        "    \"\"\"a\"\"\": 0,\n\x7d\n").toList ∧
      ∃ left, left.Sublist mixedEntries ∧
        (∀ rounds, 5 < rounds →
          (fixCode { removeDuplicateKeys := true } (fun _ => readReport) rounds
            (render mixedEntries)).outcome = .done (render left)) ∧
        withKey (.constant (.str [97])) left = mixedEntries.drop 4 ∧
        (withKey (.constant (.int 10)) left).getLast? = mixedEntries[3]? := by
  obtain ⟨left, hsub, houtcome, hlast⟩ :=
    @fixCode_keeps_last_entries { removeDuplicateKeys := true } (fun _ => readReport)
      (fun _ => readReport_render) rfl mixedEntries
  refine ⟨by decide +kernel, left, hsub, houtcome, ?_, ?_⟩
  · exact (hlast _).2 (by decide +kernel)
  · exact (hlast _).1

end Pruner.DuplicateKey
