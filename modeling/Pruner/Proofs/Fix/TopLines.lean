import Pruner.Proofs.Fix.Continuation
import Pruner.Proofs.Fix.Run
import Pruner.Proofs.Rule.FlatLines

namespace Pruner.Fix

open Pruner.Text Pruner.Line Pruner.Token

variable {options : Options} {ls rest ps : List Text}

theorem trim_ne_passWord {line : Text} (h : '#' ∈ line) : trim line ≠ passWord := by
  intro hpass
  have hmem : '#' ∈ trim line := mem_trim h (by decide)
  rw [hpass] at hmem
  exact absurd hmem (by decide)

/-- Lines with a `#` are the first pieces. -/
theorem editLines_append_hash {m : Marks} {number : Nat} {previous : Text}
    (hhash : ∀ l ∈ ls, '#' ∈ l)
    (h : editLines options m number previous (ls ++ rest) = .ok ps) :
    ∃ more, more.length = rest.length ∧ ps = ls ++ more := by
  induction ls generalizing number previous ps with
  | nil => exact ⟨ps, (editLines_eq_ok.mp h).1, rfl⟩
  | cons line ls ih =>
    rw [List.forall_mem_cons] at hhash
    obtain ⟨piece, pieces, hpiece, hpieces, rfl⟩ := editLines_cons_eq_ok.mp h
    rw [editLine_eq, if_pos hhash.1] at hpiece
    obtain ⟨more, hlength, rfl⟩ := ih hhash.2 hpieces
    exact ⟨more, hlength, by rw [← Except.ok.inj hpiece, List.cons_append]⟩

theorem dropRows_append {marked : List Nat} {row : Nat}
    (h : ∀ done line more, ls = done ++ line :: more → row + done.length ∉ marked) :
    UselessPass.dropRows marked row (ls ++ rest) =
      ls ++ UselessPass.dropRows marked (row + ls.length) rest := by
  induction ls generalizing row with
  | nil => rfl
  | cons line ls ih =>
    have hrow : ¬marked.contains row = true := by
      rw [List.contains_iff_mem]
      exact h [] line ls rfl
    have hrest : ∀ done l more, ls = done ++ l :: more → row + 1 + done.length ∉ marked := by
      intro done l more hsplit
      have hnot := h (line :: done) l more (by rw [hsplit, List.cons_append])
      rwa [List.length_cons, Nat.add_comm done.length, ← Nat.add_assoc] at hnot
    rw [List.cons_append, UselessPass.dropRows, if_neg hrow, ih hrest, List.cons_append,
      List.length_cons, Nat.add_assoc, Nat.add_comm 1]

/-- Lines with a `#` are not removed as useless. -/
theorem prefix_lines_filter {source : Text} (hhash : ∀ l ∈ ls, '#' ∈ l) (h : ls <+: lines source) :
    ls <+: lines (UselessPass.filter source) := by
  obtain ⟨rest, hrest⟩ := h
  rw [UselessPass.filter, UselessPass.filterLines, UselessPass.rowsOf]
  split
  · rename_i marked hrows
    obtain ⟨rfl, -⟩ := Prod.mk.inj hrows
    rw [lines_flatten_of_lined ((lined_lines source).sublist (UselessPass.dropRows_sublist ..)),
      ← hrest, dropRows_append]
    · exact List.prefix_append ls _
    · intro done line more hsplit hmarked
      have hline : lines source = done ++ line :: (more ++ rest) := by
        rw [← hrest, hsplit, List.append_assoc, List.cons_append]
      exact trim_ne_passWord (hhash line (by simp [hsplit]))
        (UselessPass.trim_of_mem_rows hline hmarked)
  · rw [lines_flatten]
    exact ⟨rest, hrest⟩

theorem prefix_lines_round {ds : List Diagnostic} {source next : Text}
    (hhash : ∀ l ∈ ls, '#' ∈ l) (h : ls <+: lines source)
    (hround : round options ds source = .ok next) : ls <+: lines next := by
  obtain ⟨ps, hps, rfl⟩ := round_eq_ok.mp hround
  obtain ⟨m, -, hedit⟩ := filterCode_eq_ok.mp hps
  obtain ⟨rest, hrest⟩ := h
  rw [← hrest] at hedit
  obtain ⟨more, hlength, rfl⟩ := editLines_append_hash hhash hedit
  apply prefix_lines_filter hhash
  have hlined : Lined (ls ++ rest) := hrest ▸ lined_lines source
  have hls : Lined ls := hlined.sublist (List.sublist_append_left ls rest)
  cases rest with
  | nil =>
    rw [List.length_eq_zero_iff.mp hlength, List.append_nil, lines_flatten_of_lined hls]
  | cons line rest =>
    -- A line stands after them, so they have their line feeds.
    have hended : ls.flatten = [] ∨ EndsLine ls.flatten := by
      apply ended_flatten
      intro l hl
      exact (List.pairwise_append.mp hlined.ended).2.2 l hl line List.mem_cons_self
    rw [List.flatten_append, lines_append hended, lines_flatten_of_lined hls]
    exact List.prefix_append ls _

variable {check : Nat → Text → List Diagnostic} {rounds : Nat} {source result : Text}

/-- The lines with a `#` at the top stay there through a run. -/
theorem prefix_lines_fixCode (hhash : ∀ l ∈ ls, '#' ∈ l) (h : ls <+: lines source)
    (hdone : (fixCode options check rounds source).outcome = .done result) : ls <+: lines result :=
  fixCode_invariant h (fun _ _ _ _ hcurrent => prefix_lines_round hhash hcurrent) hdone

/-- A source with a `#` on every line stays as it is. -/
theorem fixCode_of_hash (hhash : ∀ l ∈ lines source, '#' ∈ l)
    (hdone : (fixCode options check rounds source).outcome = .done result) : result = source := by
  refine fixCode_invariant (P := (· = source)) rfl ?_ hdone
  rintro index current next - rfl hround
  obtain ⟨ps, hps, rfl⟩ := round_eq_ok.mp hround
  obtain ⟨m, -, hedit⟩ := filterCode_eq_ok.mp hps
  rw [← List.append_nil (lines current)] at hedit
  obtain ⟨more, hlength, rfl⟩ := editLines_append_hash hhash hedit
  rw [List.length_eq_zero_iff.mp hlength, List.append_nil, lines_flatten]
  exact UselessPass.filter_of_no_pass fun l hl => trim_ne_passWord (hhash l hl)

/-- The first lines stay if all of them have a `#`. -/
theorem take_lines_fixCode {k : Nat} (hhash : ∀ l ∈ (lines source).take k, '#' ∈ l)
    (hdone : (fixCode options check rounds source).outcome = .done result) :
    (lines result).take k = (lines source).take k := by
  by_cases hk : k ≤ (lines source).length
  · obtain ⟨more, hmore⟩ := prefix_lines_fixCode hhash (List.take_prefix k _) hdone
    rw [← hmore, List.take_left' (List.length_take_of_le hk)]
  · rw [List.take_of_length_le (by omega)] at hhash
    rw [fixCode_of_hash hhash hdone]

end Pruner.Fix
