import Pruner.Proofs.Key.Value
import Pruner.Proofs.Rule.DuplicateKey

namespace Pruner.DuplicateKey

open Pruner.Text

/-- A number stands for a line: lines are counted from one, and numbers below one from the end. -/
def PointsAt (lines : List Text) (number : Int) (line : Text) : Prop :=
  ∃ i : Nat, lines[i]? = some line ∧
    ((i : Int) = number - 1 ∨ (i : Int) = number - 1 + lines.length)

theorem lineAt_eq_ok_iff {lines : List Text} {number : Int} {line : Text} :
    lineAt lines number = .ok line ↔ PointsAt lines number line := by
  -- Of the two ways to count, only one leads into the list.
  have hindex (i : Nat) (hi : i < lines.length) :
      ((i : Int) = number - 1 ∨ (i : Int) = number - 1 + lines.length) ↔
        (i : Int) = if number - 1 < 0 then number - 1 + lines.length else number - 1 := by
    split <;> omega
  have hpoints : PointsAt lines number line ↔ ∃ i : Nat, lines[i]? = some line ∧
      (i : Int) = if number - 1 < 0 then number - 1 + lines.length else number - 1 := by
    refine exists_congr fun i => and_congr_right fun hline => ?_
    obtain ⟨hi, -⟩ := List.getElem?_eq_some_iff.mp hline
    exact hindex i hi
  rw [hpoints, lineAt]
  generalize (if number - 1 < 0 then number - 1 + lines.length else number - 1 : Int) = k
  by_cases hk : k < 0
  · rw [if_pos hk]
    refine iff_of_false (by simp) ?_
    rintro ⟨i, -, hi⟩
    omega
  · rw [if_neg hk]
    obtain ⟨i, rfl⟩ := Int.eq_ofNat_of_zero_le (Int.not_lt.mp hk)
    cases hline : lines[i]? with
    | none => simp [hline]
    | some found => simp [hline]

theorem standsAlone_eq_ok {lines : List Text} {number : Int} {key : Key} {found : Bool} :
    standsAlone lines (number, key) = .ok found ↔
      ∃ line, PointsAt lines number line ∧ hasKey line key = .ok found := by
  rw [standsAlone, Fix.bind_eq_ok]
  simp only [lineAt_eq_ok_iff]

/-- The lines that can be removed are found unless a report leads to no line or the key on its line
cannot be compared. They are the lines of the reports such that every report for a key with the same
value is on a line that is an entry with its key. -/
theorem removable_if_all_entries_are (ds : List Diagnostic) (source : Text) :
    ((∃ numbers, removableLines ds source = .ok numbers) ↔
      ∀ n key, ⟨n, .repeatedKey key⟩ ∈ ds →
        ∃ line found, PointsAt (pieces (· == '\n') source) n line ∧ hasKey line key = .ok found) ∧
    ∀ numbers, removableLines ds source = .ok numbers →
      ∀ n, n ∈ numbers ↔ ∃ key, ⟨n, .repeatedKey key⟩ ∈ ds ∧
        ∀ n' key', ⟨n', .repeatedKey key'⟩ ∈ ds → key'.value = key.value →
          ∃ line, PointsAt (pieces (· == '\n') source) n' line ∧ hasKey line key' = .ok true := by
  constructor
  · rw [exists_removableLines_iff]
    simp only [standsAlone_eq_ok]
    exact forall₃_congr fun n key _ => exists_comm
  · intro numbers h n
    rw [mem_removableLines h]
    refine exists_congr fun key => and_congr_right fun _ => ?_
    refine forall₃_congr fun n' key' _ => ?_
    rw [Key.same_iff, standsAlone_eq_ok, eq_comm]

/-- The number one in four spellings, the last on a line that is no entry of its own, and a text and
bytes with the same characters. -/
def mixedKeys : Text :=
  ["x = \x7b\n", "1: a,\n", "True: b,\n", "1.0: c,\n", "1+0j: f(\n", "d),\n", "'k': 1,\n",
    "b'k': (\n", "2),\n", "\"k\": 3,\n", "\x7d\n"].flatMap String.toList

def mixedReports : List Diagnostic :=
  [⟨2, .repeatedKey (.constant (.int 1))⟩,
    ⟨3, .repeatedKey (.constant (.bool true))⟩,
    ⟨4, .repeatedKey (.constant (.float (.finite false 1 0)))⟩,
    ⟨5, .repeatedKey (.constant (.complex (.finite false 1 0) (.finite false 0 0)))⟩,
    ⟨7, .repeatedKey (.constant (.str [107]))⟩,
    ⟨8, .repeatedKey (.constant (.bytes [107]))⟩,
    ⟨10, .repeatedKey (.constant (.str [107]))⟩]

/-- All four spellings of one are kept for the sake of the last. The text goes, although the bytes
stay. -/
theorem removable_if_all_entries_are_mixed :
    removableLines mixedReports mixedKeys = .ok [7, 10] ∧
    (Key.constant (.bool true)).value = (Key.constant (.int 1)).value ∧
    (Key.constant (.str [107])).value ≠ (Key.constant (.bytes [107])).value ∧
    (∃ n' key', ⟨n', .repeatedKey key'⟩ ∈ mixedReports ∧
      key'.value = (Key.constant (.int 1)).value ∧
      ¬∃ line, PointsAt (pieces (· == '\n') mixedKeys) n' line ∧ hasKey line key' = .ok true) ∧
    ∃ line, PointsAt (pieces (· == '\n') mixedKeys) 10 line ∧
      hasKey line (.constant (.str [107])) = .ok true := by
  have hlines : removableLines mixedReports mixedKeys = .ok [7, 10] :=
    Fix.eq_ok_of_toOption (by decide +kernel)
  have hiff := (removable_if_all_entries_are mixedReports mixedKeys).2 [7, 10] hlines
  refine ⟨hlines, (Key.same_iff _ _).mp rfl, (Key.same_iff _ _).not.mp (by decide), ?_, ?_⟩
  · have hnot := (hiff 2).not.mp (by decide)
    by_contra hall
    apply hnot
    refine ⟨.constant (.int 1), List.mem_cons_self, fun n' key' hd hvalue => ?_⟩
    by_contra hline
    exact hall ⟨n', key', hd, hvalue, hline⟩
  · obtain ⟨key, hd, hall⟩ := (hiff 7).mp (by decide)
    have hkey : key = .constant (.str [107]) := by simpa [mixedReports] using hd
    exact hall 10 (.constant (.str [107])) (by simp [mixedReports]) (by rw [hkey])

end Pruner.DuplicateKey
