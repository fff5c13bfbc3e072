import Pruner.Proofs.Fix.Continuation
import Pruner.Proofs.Key.Value
import Pruner.Proofs.Rule.AcceptedEntries
import Pruner.Proofs.Rule.KeyGroups

/-!
The removal of a repeated key leaves the key in its dictionary.

Of all lines that are marked, only the first one goes. It has another line with an equal key in its
dictionary, which is marked as well and so stands behind it. Such a line has a colon and ends with a
comma, and no other rule touches it: the rules for imports and variables take it for a part of a
statement.
-/
namespace Pruner.Text

/-- A piece between line feeds, unless it is empty, is a line without its line feed. -/
theorem exists_line_of_piece {t s : Text} {i : Nat} (h : (pieces (· == '\n') t)[i]? = some s)
    (hne : s ≠ []) : ∃ l, (lines t)[i]? = some l ∧ (l = s ∨ l = s ++ ['\n']) := by
  induction t using separator_induction '\n' generalizing i with
  | last u hu =>
    rw [pieces_of_not_mem hu, List.getElem?_singleton] at h
    split at h
    · rename_i hi
      obtain rfl := Option.some.inj h
      rw [lines_of_not_mem hne hu, hi]
      exact ⟨u, rfl, Or.inl rfl⟩
    · contradiction
  | cons u t hu ih =>
    rw [pieces_separator hu] at h
    rw [lines_newline hu]
    cases i with
    | zero =>
      obtain rfl := Option.some.inj h
      exact ⟨_, rfl, Or.inr rfl⟩
    | succ i => exact ih h

/-- Behind the blanks at its end a text ends with its last visible character. -/
theorem getLast?_trimRight {c : Char} (hc : isBlank c = false) {d : Text}
    (hd : ∀ x ∈ d, isBlank x = true) (t : Text) : (trimRight (t ++ c :: d)).getLast? = some c := by
  have hlast : (t ++ [c]).getLast? = some c := List.getLast?_concat
  have hsplit : t ++ c :: d = (t ++ [c]) ++ d := by simp
  rw [hsplit, trimRight_append_of_blank hd, trimRight_eq_self (by simpa [hlast] using hc), hlast]

end Pruner.Text

namespace Pruner.Variable

open Pruner.Text

/-- An `except` clause ends with a colon. -/
theorem getLast?_of_dropExceptName? {line piece : Text} (h : dropExceptName? line = some piece) :
    (trimRight line).getLast? = some ':' := by
  have hline := splitNewline_append line
  have hblank : ∀ c ∈ (splitNewline line).2, isBlank c = true := by
    rw [splitNewline]
    split
    · exact List.all_eq_true.mp (show ['\n'].all isBlank = true by decide)
    · simp
  rw [dropExceptName?] at h
  generalize splitNewline line = parts at h hline hblank
  obtain ⟨body, newline⟩ := parts
  dsimp only at h hline hblank
  cases hbefore : beforeAsName? body with
  | none => simp [hbefore] at h
  | some front =>
    obtain ⟨name, rfl⟩ := beforeAsName?_eq_some hbefore
    rw [← hline, List.append_assoc, List.singleton_append]
    exact getLast?_trimRight (by decide) hblank _

end Pruner.Variable

namespace Pruner.DuplicateKey

open Pruner.Text Pruner.Line Pruner.Fix

section Entries

variable {line k v : Text} {key other : Key}

theorem IsEntry.getLast?_trimRight (h : IsEntry line k v) :
    (trimRight line).getLast? = some ',' := by
  obtain ⟨a, b, c, d, hblank, -, rfl⟩ := h.split
  have hd : ∀ x ∈ d, isBlank x = true := fun x hx => hblank x (List.mem_append_right _ hx)
  have hsplit : a ++ (k ++ (b ++ ':' :: (c ++ (v ++ ',' :: d)))) =
      a ++ k ++ b ++ [':'] ++ c ++ v ++ ',' :: d := by simp
  rw [hsplit]
  exact getLast?_trimRight (by decide) hd _

theorem IsEntry.colon_mem (h : IsEntry line k v) : ':' ∈ line := by
  obtain ⟨a, b, c, d, -, -, rfl⟩ := h.split
  simp

/-- The line feed belongs to the blanks behind an entry. -/
theorem IsEntry.newline (h : IsEntry line k v) : IsEntry (line ++ ['\n']) k v := by
  obtain ⟨⟨a, b, c, d, hblank, hb, rfl⟩, hkey, hvalue, hinline⟩ := h
  refine ⟨⟨a, b, c, d ++ ['\n'], ?_, hb, by simp⟩, hkey, hvalue, hinline⟩
  have hnewline : isBlank '\n' = true := by decide
  intro x hx
  rw [← List.append_assoc, List.mem_append, List.mem_singleton] at hx
  rcases hx with hx | rfl
  · exact hblank x hx
  · exact hnewline

theorem hasKey_newline (h : hasKey line key = .ok true) :
    hasKey (line ++ ['\n']) key = .ok true := by
  obtain ⟨hhash, k, v, hentry, hdenotes, hclosed⟩ := hasKey_eq_true_iff.mp h
  refine hasKey_eq_true_iff.mpr ⟨?_, k, v, hentry.newline, hdenotes, hclosed⟩
  simpa using hhash

/-- An entry with a key is one with every key that has the same value. -/
theorem hasKey_of_value_eq (h : hasKey line key = .ok true) (hvalue : key.value = other.value) :
    hasKey line other = .ok true := by
  obtain ⟨hhash, k, v, hentry, ⟨value, hliteral, hkey⟩, hclosed⟩ := hasKey_eq_true_iff.mp h
  have hother := Value.isKey_of_same hkey ((Key.same_iff key other).mpr hvalue)
  exact hasKey_eq_true_iff.mpr ⟨hhash, k, v, hentry, ⟨value, hliteral, hother⟩, hclosed⟩

/-- An entry in the source is an entry on its line, with the line feed. -/
theorem exists_entry_line {source : Text} {n : Int} (hn : 0 < n)
    (h : standsAlone (pieces (· == '\n') source) (n, key) = .ok true) :
    ∃ i line, n = ((i + 1 : Nat) : Int) ∧ (lines source)[i]? = some line ∧
      hasKey line key = .ok true := by
  obtain ⟨body, ⟨i, hbody, hindex⟩, hkey⟩ := standsAlone_eq_ok.mp h
  have hi : n = ((i + 1 : Nat) : Int) := by
    obtain ⟨hlen, -⟩ := List.getElem?_eq_some_iff.mp hbody
    omega
  have hne : body ≠ [] := by
    rintro rfl
    obtain ⟨-, k, v, hentry, -, -⟩ := hasKey_eq_true_iff.mp hkey
    exact absurd hentry.colon_mem List.not_mem_nil
  obtain ⟨line, hline, rfl | rfl⟩ := exists_line_of_piece hbody hne
  · exact ⟨i, line, hi, hline, hkey⟩
  · exact ⟨i, _, hi, hline, hasKey_newline hkey⟩

end Entries

section Edits

variable {options : Options} {m : Marks} {number : Nat} {previous line : Text} {key : Key}

/-- To the rule for imports an entry is a part of a statement. -/
theorem importFilterUnused_entry (h : hasKey line key = .ok true) (unused : List Text)
    (removeAll : Bool) (allowed : List Text) :
    Import.filterUnused line unused removeAll allowed previous = .ok line := by
  obtain ⟨-, k, v, hentry, -, -⟩ := hasKey_eq_true_iff.mp h
  have hpartial : isPartialImport line previous = true := by
    simp [isPartialImport, isPartial, hentry.colon_mem]
  rw [Import.filterUnused, if_pos hpartial]

/-- To the rule for variables an entry is a part of a statement, and no `except` clause. -/
theorem variableFilterUnused_entry (h : hasKey line key = .ok true) :
    Variable.filterUnused line previous = .ok line := by
  obtain ⟨-, k, v, hentry, -, -⟩ := hasKey_eq_true_iff.mp h
  have hpartial : isPartial line previous = true := by
    simp [isPartial, hentry.colon_mem]
  have hexcept : Variable.dropExceptName? line = none := by
    rw [Option.eq_none_iff_forall_ne_some]
    intro piece hpiece
    have hlast := Variable.getLast?_of_dropExceptName? hpiece
    rw [hentry.getLast?_trimRight] at hlast
    simp at hlast
  rw [Variable.filterUnused, hexcept]
  exact if_pos hpartial

/-- A line that is marked for its key falls under that rule or one before it. -/
theorem ruleFor?_of_mem_keys (h : (number : Int) ∈ m.keys) :
    ruleFor? m number = some .imports ∨ ruleFor? m number = some .variables ∨
      ruleFor? m number = some .keys := by
  simp only [ruleFor?, List.contains_iff_mem, h, if_true]
  split
  · exact Or.inl rfl
  · split
    · exact Or.inr (Or.inl rfl)
    · exact Or.inr (Or.inr rfl)

/-- A marked entry that is not the first marked line stays, whatever else it is reported for. -/
theorem editLine_later_entry (h : hasKey line key = .ok true) (hmarked : (number : Int) ∈ m.keys)
    {n : Int} (hn : n ∈ m.keys) (hlt : n < number) :
    editLine options m number previous line = .ok line := by
  have hhash : '#' ∉ line := (hasKey_eq_true_iff.mp h).1
  have hkept : filterMarked line number m.keys = line := by
    rw [filterMarked, if_neg]
    intro hfirst
    have hle := List.all_eq_true.mp (Bool.and_eq_true_iff.mp hfirst).2 n hn
    rw [decide_eq_true_eq] at hle
    omega
  rw [editLine_eq, if_neg hhash]
  -- The line may also be reported for an import or a variable, and those rules come first.
  rcases ruleFor?_of_mem_keys hmarked with hrule | hrule | hrule
  · rw [hrule]
    exact importFilterUnused_entry h _ _ _
  · rw [hrule]
    exact variableFilterUnused_entry h
  · rw [hrule]
    exact congrArg Except.ok hkept

theorem exists_editLine {source : Text} {ps : List Text} {i : Nat}
    (hedit : editLines options m 1 [] (lines source) = .ok ps)
    (hline : (lines source)[i]? = some line) :
    ∃ before piece, ps[i]? = some piece ∧ editLine options m (i + 1) before line = .ok piece := by
  obtain ⟨hlen, hall⟩ := editLines_eq_ok.mp hedit
  obtain ⟨hi, -⟩ := List.getElem?_eq_some_iff.mp hline
  have hbefore : ([] :: lines source)[i]? = some (([] :: lines source).get ⟨i, by simp; omega⟩) :=
    List.getElem?_eq_getElem _
  have hpiece : ps[i]? = some (ps.get ⟨i, by omega⟩) := List.getElem?_eq_getElem _
  have hstep := hall i line _ _ hline hbefore hpiece
  rw [Nat.add_comm] at hstep
  exact ⟨_, _, hpiece, hstep⟩

/-- The rule for repeated keys takes a line away: no rule before it takes the line, and its piece is
empty. -/
def RemovedAsKey (m : Marks) (ps : List Text) (i : Nat) : Prop :=
  ruleFor? m (i + 1) = some .keys ∧ ps[i]? = some []

/-- The line that is taken away is the first that is marked. -/
theorem RemovedAsKey.first {source : Text} {ps : List Text} {i : Nat} (h : RemovedAsKey m ps i)
    (hedit : editLines options m 1 [] (lines source) = .ok ps) :
    ((i + 1 : Nat) : Int) ∈ m.keys ∧ ∀ n ∈ m.keys, ((i + 1 : Nat) : Int) ≤ n := by
  obtain ⟨hrule, hpiece⟩ := h
  obtain ⟨hi, -⟩ := List.getElem?_eq_some_iff.mp hpiece
  rw [(editLines_eq_ok.mp hedit).1] at hi
  have hline := List.getElem?_eq_getElem hi
  -- No line is empty, so an empty piece is the work of the rule.
  have hne := ((lined_lines source).line _ (List.mem_of_getElem? hline)).ne_nil
  obtain ⟨before, piece, hpiece', hstep⟩ := exists_editLine hedit hline
  obtain rfl : piece = [] := Option.some.inj (hpiece'.symm.trans hpiece)
  rw [editLine_eq, hrule] at hstep
  split at hstep
  · exact absurd (Except.ok.inj hstep) hne
  · have hgone := Except.ok.inj hstep
    rw [filterMarked] at hgone
    split at hgone
    · rename_i hfirst
      rw [Bool.and_eq_true, List.contains_iff_mem, List.all_eq_true] at hfirst
      exact ⟨hfirst.1, fun n hn => of_decide_eq_true (hfirst.2 n hn)⟩
    · exact absurd hgone hne

end Edits

/-- The rule for repeated keys takes at most one line away. If every report of a repeated key has
another one for an equal key in the same dictionary, on another line, then a later line of that
dictionary, which is an entry with the same key as the line that goes, stays as it is. The dictionary
of a line may be anything. -/
theorem filterCode_leaves_equal_key {δ : Type} (dictionary : Int → δ) {options : Options}
    {ds : List Diagnostic} {source : Text} {ps : List Text}
    (hpartner : ∀ n key, ⟨n, .repeatedKey key⟩ ∈ ds → ∃ n' key', ⟨n', .repeatedKey key'⟩ ∈ ds ∧
      key'.value = key.value ∧ dictionary n' = dictionary n ∧ n' ≠ n)
    (h : filterCode options ds source = .ok ps) :
    ∃ m, marks options source ds = .ok m ∧
      (∀ i j, RemovedAsKey m ps i → RemovedAsKey m ps j → i = j) ∧
      ∀ i, RemovedAsKey m ps i → ∃ j line line' key, i < j ∧
        dictionary ((j + 1 : Nat) : Int) = dictionary ((i + 1 : Nat) : Int) ∧
        (lines source)[i]? = some line ∧ hasKey line key = .ok true ∧
        (lines source)[j]? = some line' ∧ hasKey line' key = .ok true ∧
        ps[j]? = some line' := by
  obtain ⟨m, hm, hedit⟩ := filterCode_eq_ok.mp h
  refine ⟨m, hm, ?_, ?_⟩
  · intro i j hi hj
    have hle := (hi.first hedit).2 _ (hj.first hedit).1
    have hge := (hj.first hedit).2 _ (hi.first hedit).1
    omega
  · intro i hi
    obtain ⟨hmem, hfirst⟩ := hi.first hedit
    have hkeys : removableLines ds source = .ok m.keys := by
      obtain ⟨-, -, -, -, -, hkeys⟩ := marks_eq_ok.mp hm
      split at hkeys
      · exact hkeys
      · rw [← Except.ok.inj hkeys] at hmem
        exact absurd hmem List.not_mem_nil
    obtain ⟨key, hd, hgroup⟩ := (mem_removableLines hkeys).mp hmem
    obtain ⟨n', key', hd', hvalue, hdictionary, hne⟩ := hpartner _ key hd
    have hsame : key.same key' = true := (Key.same_iff key key').mpr hvalue.symm
    -- The other report is of the same group, so its line is marked and comes later.
    have hmem' : n' ∈ m.keys := by
      refine (mem_removableLines hkeys).mpr ⟨key', hd', fun n'' key'' hd'' hsame' => ?_⟩
      exact hgroup n'' key'' hd'' (Key.same_trans hsame hsame')
    have hlt := hfirst n' hmem'
    obtain ⟨i', line, hi', hline, hkey⟩ :=
      exists_entry_line (by omega) (hgroup _ key hd (Key.same_refl key))
    obtain ⟨j, line', rfl, hline', hkey'⟩ := exists_entry_line (by omega) (hgroup n' key' hd' hsame)
    obtain rfl : i = i' := by omega
    have hlater : hasKey line' key = .ok true := hasKey_of_value_eq hkey' hvalue
    refine ⟨j, line, line', key, by omega, hdictionary, hline, hkey, hline', hlater, ?_⟩
    obtain ⟨before, piece, hpiece, hstep⟩ := exists_editLine hedit hline'
    rw [editLine_later_entry hlater hmem' hmem (by omega)] at hstep
    rw [hpiece, Except.ok.inj hstep]

/-- Two dictionaries with one key. -/
def twoDictionaries : Text :=
  ["x = \x7b\n", "    'k': 1,\n", "    'k': 2,\n", "\x7d\n", "y = \x7b\n", "    \"k\": 3,\n",
    "    'k': 4,\n", "\x7d\n"].flatMap String.toList

/-- The entries of both are reported, and the second one also as an import and a variable. -/
def twoDictionariesReports : List Diagnostic :=
  [2, 3, 6, 7].map (fun n => ⟨n, .repeatedKey (.constant (.str [107]))⟩) ++
    [⟨3, .unusedImport ['k']⟩, ⟨3, .unusedVariable ['k']⟩]

theorem filterCode_leaves_equal_key_twice :
    filterCode { removeDuplicateKeys := true, removeUnusedVariables := true }
        twoDictionariesReports twoDictionaries =
      .ok ((lines twoDictionaries).set 1 []) ∧
    ∃ j line key, 1 < j ∧ j < 4 ∧ ((lines twoDictionaries).set 1 [])[j]? = some line ∧
      hasKey line key = .ok true := by
  have hps : filterCode { removeDuplicateKeys := true, removeUnusedVariables := true }
      twoDictionariesReports twoDictionaries = .ok ((lines twoDictionaries).set 1 []) :=
    eq_ok_of_toOption (by decide +kernel)
  have hkeys : removableLines twoDictionariesReports twoDictionaries = .ok [2, 3, 6, 7] :=
    eq_ok_of_toOption (by decide +kernel)
  -- A line belongs to the first dictionary or to the second.
  have hpartner (n : Int) (key : Key) (hd : ⟨n, .repeatedKey key⟩ ∈ twoDictionariesReports) :
      ∃ n' key', ⟨n', .repeatedKey key'⟩ ∈ twoDictionariesReports ∧ key'.value = key.value ∧
        decide (n' < 5) = decide (n < 5) ∧ n' ≠ n := by
    have hcases : (n = 2 ∨ n = 3 ∨ n = 6 ∨ n = 7) ∧ key = .constant (.str [107]) := by
      simpa [twoDictionariesReports, or_and_right] using hd
    obtain ⟨hn, rfl⟩ := hcases
    have hmem (n' : Int) (hn' : n' = 2 ∨ n' = 3 ∨ n' = 6 ∨ n' = 7) :
        ⟨n', .repeatedKey (.constant (.str [107]))⟩ ∈ twoDictionariesReports := by
      simpa [twoDictionariesReports] using hn'
    rcases hn with rfl | rfl | rfl | rfl
    · exact ⟨3, _, hmem 3 (by decide), rfl, by decide, by decide⟩
    · exact ⟨2, _, hmem 2 (by decide), rfl, by decide, by decide⟩
    · exact ⟨7, _, hmem 7 (by decide), rfl, by decide, by decide⟩
    · exact ⟨6, _, hmem 6 (by decide), rfl, by decide, by decide⟩
  obtain ⟨m, hm, -, hleft⟩ := filterCode_leaves_equal_key (fun n => decide (n < 5)) hpartner hps
  obtain ⟨himports, -, -, -, hassignments, hmarked⟩ := marks_eq_ok.mp hm
  have hm' : m.keys = [2, 3, 6, 7] := Except.ok.inj (hmarked.symm.trans hkeys)
  have hgone : RemovedAsKey m ((lines twoDictionaries).set 1 []) 1 := by
    refine ⟨?_, by decide +kernel⟩
    rw [ruleFor?, himports, hassignments, hm']
    rfl
  obtain ⟨j, -, line, key, hlt, hsame, -, -, -, hkey, hpiece⟩ := hleft 1 hgone
  have hj : j < 4 := by
    have hbool : decide (((j + 1 : Nat) : Int) < 5) = true := hsame
    have := of_decide_eq_true hbool
    omega
  exact ⟨hps, j, line, key, hlt, hj, hpiece, hkey⟩

end Pruner.DuplicateKey
