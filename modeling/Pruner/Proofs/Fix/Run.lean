import Pruner.Proofs.Fix.Round
import Pruner.Proofs.Rule.UselessPass
import Pruner.Proofs.Text.LineSum

namespace Pruner.Fix

open Pruner.Text Pruner.Token

section

variable {options : Options} {check : Nat → Text → List Diagnostic} {rounds : Nat}
  {source result : Text}

/-- What holds of the source, and every round keeps, holds of all sources that are checked. -/
theorem loop_passes_invariant {P : Text → Prop} {index : Nat} (hstart : P source)
    (hround : ∀ i current next, (loop options check rounds index source).passes[i]? = some current →
      P current → round options (check (index + i) current) current = .ok next → P next)
    {i : Nat} {current : Text}
    (h : (loop options check rounds index source).passes[i]? = some current) : P current := by
  induction rounds generalizing index source i with
  | zero => simp at h
  | succ rounds ih =>
    cases i with
    | zero =>
      rw [head?_passes_loop] at h
      rwa [← Option.some.inj h]
    | succ i =>
      cases hnext : round options (check index source) source with
      | error fault => simp [loop_succ, hnext] at h
      | ok next =>
        by_cases hsame : next = source
        · simp [loop_succ, hnext, hsame] at h
        · have hkept : P next := hround 0 source next (head?_passes_loop ..) hstart hnext
          rw [loop_succ_of_ne hnext hsame] at hround h
          apply ih hkept _ h
          -- The passes of the rest of the run come one place later in the whole run.
          intro j current later hcurrent hP hlater
          refine hround (j + 1) current later hcurrent hP ?_
          rwa [← Nat.add_assoc, Nat.add_right_comm]

/-- The result of the repetition is the source of its last round, which did not change it. -/
theorem exists_last_pass {index : Nat}
    (h : (loop options check rounds index source).outcome = .done result) :
    ∃ i, (loop options check rounds index source).passes[i]? = some result ∧
      round options (check (index + i) result) result = .ok result := by
  induction rounds generalizing index source with
  | zero => simp at h
  | succ rounds ih =>
    cases hnext : round options (check index source) source with
    | error fault => simp [loop_succ, hnext] at h
    | ok next =>
      by_cases hsame : next = source
      · rw [outcome_loop hnext, if_pos hsame] at h
        obtain rfl := Outcome.done.inj h
        rw [← hsame] at hnext ⊢
        exact ⟨0, head?_passes_loop .., hnext⟩
      · rw [loop_succ_of_ne hnext hsame] at h ⊢
        obtain ⟨i, hi, hlast⟩ := ih h
        refine ⟨i + 1, hi, ?_⟩
        rwa [← Nat.add_assoc, Nat.add_right_comm]

theorem fixCode_passes_invariant {P : Text → Prop} (hstart : P source)
    (hround : ∀ index current next,
      (fixCode options check rounds source).passes[index]? = some current → P current →
        round (effective options source) (check index current) current = .ok next → P next)
    {index : Nat} {current : Text}
    (h : (fixCode options check rounds source).passes[index]? = some current) : P current := by
  rw [fixCode] at hround h
  split at h
  · simp at h
  · rename_i hne
    rw [if_neg hne] at hround
    apply loop_passes_invariant hstart _ h
    intro i current next hcurrent hP hnext
    rw [Nat.zero_add] at hnext
    exact hround i current next hcurrent hP hnext

/-- What every round keeps, fixing a source keeps. -/
theorem fixCode_invariant {P : Text → Prop} (hstart : P source)
    (hround : ∀ index current next,
      (fixCode options check rounds source).passes[index]? = some current → P current →
        round (effective options source) (check index current) current = .ok next → P next)
    (h : (fixCode options check rounds source).outcome = .done result) : P result := by
  by_cases hempty : source = []
  · rw [hempty] at h hstart
    rwa [← Outcome.done.inj h]
  · have hloop : fixCode options check rounds source =
        loop (effective options source) check rounds 0 source := if_neg (by simpa using hempty)
    rw [hloop] at h
    obtain ⟨i, hlast, -⟩ := exists_last_pass h
    rw [← hloop] at hlast
    exact fixCode_passes_invariant hstart hround hlast

/-- A run whose second round changes nothing. -/
theorem outcome_of_two_rounds {next : Text} (hsource : source ≠ [])
    (hfirst : round (effective options source) (check 0 source) source = .ok next)
    (hsecond : round (effective options source) (check 1 next) next = .ok next) :
    (fixCode options check 2 source).outcome = .done next := by
  rw [fixCode, if_neg (by simpa using hsource), outcome_loop hfirst]
  split
  · rfl
  · rw [outcome_loop hsecond, if_pos rfl]

/-- If variables are to stay anyway, the source makes no difference. -/
theorem effective_eq_of_not_variables (h : options.removeUnusedVariables = false) (source : Text) :
    effective options source = options := by
  rw [effective]
  split
  · rw [← h]
  · rfl

/-- The text that is checked first is the source. -/
theorem fixCode_passes_zero {current : Text}
    (h : (fixCode options check rounds source).passes[0]? = some current) : current = source := by
  rw [fixCode] at h
  split at h
  · simp at h
  · cases rounds with
    | zero => simp at h
    | succ rounds =>
      rw [head?_passes_loop] at h
      exact (Option.some.inj h).symm

end

section

variable {M : Type} [AddMonoid M] {weight : Text → M}

/-- Lines that are dropped as a useless `pass` weigh nothing. -/
theorem sum_dropRows {marked : List Nat} {row : Nat} {ls : List Text}
    (h : ∀ done line rest, ls = done ++ line :: rest → row + done.length ∈ marked →
      weight line = 0) :
    ((UselessPass.dropRows marked row ls).map weight).sum = (ls.map weight).sum := by
  induction ls generalizing row with
  | nil => rfl
  | cons line rest ih =>
    have hrest : ((UselessPass.dropRows marked (row + 1) rest).map weight).sum =
        (rest.map weight).sum := by
      apply ih
      intro done l more hsplit hmarked
      apply h (line :: done) l more
      · rw [hsplit, List.cons_append]
      · rwa [List.length_cons, Nat.add_comm done.length, ← Nat.add_assoc]
    rw [UselessPass.dropRows]
    split
    · rename_i hmarked
      have hzero : weight line = 0 := h [] line rest rfl (List.contains_iff_mem.mp hmarked)
      rw [hrest, List.map_cons, List.sum_cons, hzero, zero_add]
    · rw [List.map_cons, List.sum_cons, hrest, List.map_cons, List.sum_cons]

theorem lines_filter_sublist (source : Text) :
    (lines (UselessPass.filter source)).Sublist (lines source) := by
  rw [UselessPass.filter, UselessPass.filterLines]
  split
  · rw [lines_flatten_of_lined ((lined_lines source).sublist (UselessPass.dropRows_sublist ..))]
    exact UselessPass.dropRows_sublist ..
  · rw [lines_flatten]

/-- Without useless `pass` statements a source weighs the same. -/
theorem lineSum_filter (hpass : ∀ line, trim line = passWord → weight line = 0) (source : Text) :
    lineSum weight (UselessPass.filter source) = lineSum weight source := by
  rw [UselessPass.filter, UselessPass.filterLines, UselessPass.rowsOf]
  split
  · rename_i marked hrows
    obtain ⟨rfl, -⟩ := Prod.mk.inj hrows
    rw [lineSum_flatten_of_lined ((lined_lines source).sublist (UselessPass.dropRows_sublist ..))]
    apply sum_dropRows
    intro done line rest hsplit hmarked
    exact hpass line (UselessPass.trim_of_mem_rows hsplit hmarked)
  · rw [lines_flatten]

/-- A round keeps the weight of a source, if the pieces stand for their lines. -/
theorem lineSum_round {options : Options} {ds : List Diagnostic} {source next : Text}
    (hpass : ∀ line, trim line = passWord → weight line = 0)
    (hedit : ∀ m, marks options source ds = .ok m → ∀ i line before piece,
      (lines source)[i]? = some line → editLine options m (1 + i) before line = .ok piece →
        StandsFor weight line piece)
    (h : round options ds source = .ok next) :
    lineSum weight next = lineSum weight source := by
  obtain ⟨ps, hps, rfl⟩ := round_eq_ok.mp h
  rw [lineSum_filter hpass]
  apply lineSum_flatten (lined_lines source)
  apply forall₂_of_filterCode hps
  intro m hm i line before piece hline _ hpiece
  exact hedit m hm i line before piece hline hpiece

/-- A round keeps the line feed at the end, if the pieces do. -/
theorem ended_round {options : Options} {ds : List Diagnostic} {source next : Text}
    (hsource : source = [] ∨ EndsLine source)
    (hedit : ∀ m, marks options source ds = .ok m → ∀ i line before piece,
      (lines source)[i]? = some line → editLine options m (1 + i) before line = .ok piece →
        EndsLine line → EndsLine piece)
    (h : round options ds source = .ok next) : next = [] ∨ EndsLine next := by
  obtain ⟨ps, hps, rfl⟩ := round_eq_ok.mp h
  have hall : List.Forall₂ (fun _ piece => EndsLine piece) (lines source) ps := by
    apply forall₂_of_filterCode hps
    intro m hm i line before piece hline _ hpiece
    apply hedit m hm i line before piece hline hpiece
    exact endsLine_of_mem_lines hsource (List.mem_of_getElem? hline)
  have hpieces : ∀ piece ∈ ps, EndsLine piece := by
    intro piece hpiece
    obtain ⟨i, hi, rfl⟩ := List.mem_iff_getElem.mp hpiece
    exact hall.get (by rw [hall.length_eq]; exact hi) hi
  rw [← lines_flatten (UselessPass.filter ps.flatten)]
  apply ended_flatten
  intro l hl
  exact endsLine_of_mem_lines (ended_flatten hpieces) ((lines_filter_sublist _).subset hl)

/-- A run keeps what its rounds keep of the lines. -/
theorem lineSum_fixCode {options : Options} {check : Nat → Text → List Diagnostic} {rounds : Nat}
    {source result : Text} (hpass : ∀ line, trim line = passWord → weight line = 0)
    (hedit : ∀ index current, (fixCode options check rounds source).passes[index]? = some current →
      ∀ m, marks (effective options source) current (check index current) = .ok m →
        ∀ i line before piece, (lines current)[i]? = some line →
          editLine (effective options source) m (1 + i) before line = .ok piece →
            StandsFor weight line piece)
    (h : (fixCode options check rounds source).outcome = .done result) :
    lineSum weight result = lineSum weight source := by
  apply fixCode_invariant (P := fun t => lineSum weight t = lineSum weight source) rfl _ h
  intro index current next hcurrent hkept hnext
  rw [lineSum_round hpass (hedit index current hcurrent) hnext, hkept]

end

end Pruner.Fix
