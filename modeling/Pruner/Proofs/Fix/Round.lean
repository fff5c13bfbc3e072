import Pruner.Fix
import Mathlib.Data.List.Forall2

namespace Pruner.Fix

open Pruner.Text

/-- Two steps succeed if both do. -/
theorem bind_eq_ok {ε α β : Type} {x : Except ε α} {f : α → Except ε β} {b : β} :
    (x >>= f) = .ok b ↔ ∃ a, x = .ok a ∧ f a = .ok b := by
  cases x with
  | error e => simp [bind, Except.bind]
  | ok a => simp [bind, Except.bind]

theorem bind_eq_error {ε α β : Type} {x : Except ε α} {f : α → Except ε β} {e : ε} :
    (x >>= f) = .error e ↔ x = .error e ∨ ∃ a, x = .ok a ∧ f a = .error e := by
  cases x with
  | error e => simp [bind, Except.bind]
  | ok a => simp [bind, Except.bind]

theorem eq_ok_of_toOption {α : Type} {x : Edit α} {a : α} (h : x.toOption = some a) :
    x = .ok a := by
  cases x with
  | error fault => simp [Except.toOption] at h
  | ok b => rw [Option.some.inj h]

theorem mem_unusedImportLines {ds : List Diagnostic} {k : Int} :
    k ∈ Diagnostic.unusedImportLines ds ↔ ∃ name, ⟨k, .unusedImport name⟩ ∈ ds := by
  rw [Diagnostic.unusedImportLines, List.mem_filterMap]
  constructor
  · rintro ⟨⟨line, problem⟩, hd, hline⟩
    cases problem with
    | unusedImport name =>
      obtain rfl : line = k := by simpa using hline
      exact ⟨name, hd⟩
    | _ => simp at hline
  · rintro ⟨name, hd⟩
    exact ⟨_, hd, rfl⟩

/-- The marks are those that the diagnostics and the options ask for. -/
theorem marks_eq_ok {options : Options} {source : Text} {ds : List Diagnostic} {m : Marks} :
    marks options source ds = .ok m ↔
      m.imports = Diagnostic.unusedImportLines ds ∧
      Diagnostic.unusedImportNames ds = .ok m.importNames ∧
      m.stars = markedStars options source ds ∧
      m.starNames = (Diagnostic.starUsages ds).map (·.2.1) ∧
      m.assignments =
        (if options.removeUnusedVariables then Diagnostic.unusedVariableLines ds else []) ∧
      (if options.removeDuplicateKeys then DuplicateKey.removableLines ds source else .ok []) =
        .ok m.keys := by
  have hmarks : marks options source ds = .ok m ↔ ∃ names keys,
      Diagnostic.unusedImportNames ds = .ok names ∧
      (if options.removeDuplicateKeys then DuplicateKey.removableLines ds source else .ok []) =
        .ok keys ∧
      m = ⟨Diagnostic.unusedImportLines ds, names, markedStars options source ds,
        (Diagnostic.starUsages ds).map (·.2.1),
        if options.removeUnusedVariables then Diagnostic.unusedVariableLines ds else [], keys⟩ := by
    simp only [marks, bind_eq_ok]
    constructor
    · rintro ⟨names, hnames, h⟩
      split at h <;> rename_i hremove <;> obtain ⟨keys, hkeys, h⟩ := bind_eq_ok.mp h
      · exact ⟨names, keys, hnames, by rwa [if_pos hremove], (Except.ok.inj h).symm⟩
      · exact ⟨names, keys, hnames, by rwa [if_neg hremove], (Except.ok.inj h).symm⟩
    · rintro ⟨names, keys, hnames, hkeys, rfl⟩
      refine ⟨names, hnames, ?_⟩
      split at hkeys <;> rename_i hremove
      · rw [if_pos hremove]
        exact bind_eq_ok.mpr ⟨keys, hkeys, rfl⟩
      · rw [if_neg hremove]
        exact bind_eq_ok.mpr ⟨keys, hkeys, rfl⟩
  rw [hmarks]
  constructor
  · rintro ⟨names, keys, hnames, hkeys, rfl⟩
    exact ⟨rfl, hnames, rfl, rfl, rfl, hkeys⟩
  · rintro ⟨himports, hnames, hstars, hstarNames, hassignments, hkeys⟩
    refine ⟨m.importNames, m.keys, hnames, hkeys, ?_⟩
    rw [← himports, ← hstars, ← hstarNames, ← hassignments]

theorem editLines_cons_eq_ok {options : Options} {m : Marks} {number : Nat}
    {previous line : Text} {rest ps : List Text} :
    editLines options m number previous (line :: rest) = .ok ps ↔
      ∃ piece pieces, editLine options m number previous line = .ok piece ∧
        editLines options m (number + 1) line rest = .ok pieces ∧ ps = piece :: pieces := by
  rw [editLines, bind_eq_ok]
  constructor
  · rintro ⟨piece, hpiece, h⟩
    rw [bind_eq_ok] at h
    obtain ⟨pieces, hpieces, h⟩ := h
    exact ⟨piece, pieces, hpiece, hpieces, (Except.ok.inj h).symm⟩
  · rintro ⟨piece, pieces, hpiece, hpieces, rfl⟩
    exact ⟨piece, hpiece, bind_eq_ok.mpr ⟨pieces, hpieces, rfl⟩⟩

/-- Every line gives one piece, edited with its own number and the line before it. -/
theorem editLines_eq_ok {options : Options} {m : Marks} {number : Nat} {previous : Text}
    {ls ps : List Text} :
    editLines options m number previous ls = .ok ps ↔
      ps.length = ls.length ∧ ∀ i line before piece, ls[i]? = some line →
        (previous :: ls)[i]? = some before → ps[i]? = some piece →
          editLine options m (number + i) before line = .ok piece := by
  induction ls generalizing number previous ps with
  | nil =>
    constructor
    · intro h
      simp only [editLines, Except.ok.injEq] at h
      simp [← h]
    · rintro ⟨hlen, -⟩
      simp only [List.length_nil, List.length_eq_zero_iff] at hlen
      rw [hlen, editLines]
  | cons line rest ih =>
    rw [editLines_cons_eq_ok]
    constructor
    · rintro ⟨piece, pieces, hpiece, hpieces, rfl⟩
      obtain ⟨hlen, hall⟩ := ih.mp hpieces
      refine ⟨by simp [hlen], ?_⟩
      intro i line' before piece' hline hbefore hpiece'
      cases i with
      | zero =>
        simp only [List.getElem?_cons_zero, Option.some.injEq] at hline hbefore hpiece'
        simpa [hline, hbefore, hpiece'] using hpiece
      | succ i =>
        simp only [List.getElem?_cons_succ] at hline hbefore hpiece'
        have hstep := hall i line' before piece' hline hbefore hpiece'
        rwa [Nat.add_assoc, Nat.add_comm 1 i] at hstep
    · rintro ⟨hlen, hall⟩
      obtain ⟨piece, pieces, rfl⟩ : ∃ piece pieces, ps = piece :: pieces :=
        List.exists_cons_of_length_pos (by simp [hlen])
      refine ⟨piece, pieces, hall 0 line previous piece rfl rfl rfl, ih.mpr ⟨by simpa using hlen, ?_⟩,
        rfl⟩
      intro i line' before piece' hline hbefore hpiece'
      have hstep := hall (i + 1) line' before piece' hline hbefore hpiece'
      rwa [Nat.add_assoc, Nat.add_comm 1 i]

theorem filterCode_eq_ok {options : Options} {ds : List Diagnostic} {source : Text}
    {ps : List Text} :
    filterCode options ds source = .ok ps ↔
      ∃ m, marks options source ds = .ok m ∧ editLines options m 1 [] (lines source) = .ok ps := by
  rw [filterCode, bind_eq_ok]

/-- What holds between every line and its edit holds between the lines and the pieces. -/
theorem forall₂_of_filterCode {options : Options} {ds : List Diagnostic} {source : Text}
    {ps : List Text} {R : Text → Text → Prop} (h : filterCode options ds source = .ok ps)
    (hedit : ∀ m, marks options source ds = .ok m → ∀ i line before piece,
      (lines source)[i]? = some line → ([] :: lines source)[i]? = some before →
        editLine options m (1 + i) before line = .ok piece → R line piece) :
    List.Forall₂ R (lines source) ps := by
  obtain ⟨m, hm, h⟩ := filterCode_eq_ok.mp h
  obtain ⟨hlen, hall⟩ := editLines_eq_ok.mp h
  refine List.forall₂_iff_get.mpr ⟨hlen.symm, ?_⟩
  intro i hi hi'
  have hline : (lines source)[i]? = some ((lines source).get ⟨i, hi⟩) := List.getElem?_eq_getElem hi
  have hpiece : ps[i]? = some (ps.get ⟨i, hi'⟩) := List.getElem?_eq_getElem hi'
  obtain ⟨before, hbefore⟩ : ∃ before, ([] :: lines source)[i]? = some before :=
    ⟨_, List.getElem?_eq_getElem (by simp; omega)⟩
  exact hedit m hm i _ before _ hline hbefore (hall i _ before _ hline hbefore hpiece)

theorem round_eq_ok {options : Options} {ds : List Diagnostic} {source next : Text} :
    round options ds source = .ok next ↔
      ∃ ps, filterCode options ds source = .ok ps ∧ UselessPass.filter ps.flatten = next := by
  simp only [round, bind_eq_ok, Except.ok.injEq]

@[simp] theorem loop_zero (options : Options) (check : Nat → Text → List Diagnostic) (index : Nat)
    (source : Text) : loop options check 0 index source = ⟨[], .unfinished⟩ :=
  rfl

theorem loop_succ (options : Options) (check : Nat → Text → List Diagnostic) (rounds index : Nat)
    (source : Text) :
    loop options check (rounds + 1) index source =
      match round options (check index source) source with
      | .error fault => ⟨[source], .failed fault⟩
      | .ok next =>
        if next == source then ⟨[source], .done next⟩
        else { loop options check rounds (index + 1) next with
          passes := source :: (loop options check rounds (index + 1) next).passes } :=
  rfl

theorem loop_succ_of_ne {options : Options} {check : Nat → Text → List Diagnostic}
    {index : Nat} {source next : Text}
    (hround : round options (check index source) source = .ok next) (hne : next ≠ source)
    (rounds : Nat) :
    loop options check (rounds + 1) index source =
      { loop options check rounds (index + 1) next with
        passes := source :: (loop options check rounds (index + 1) next).passes } := by
  rw [loop_succ, hround]
  simp [hne]

/-- The first source that is checked is the one given. -/
theorem head?_passes_loop (options : Options) (check : Nat → Text → List Diagnostic)
    (rounds index : Nat) (source : Text) :
    (loop options check (rounds + 1) index source).passes[0]? = some source := by
  rw [loop_succ]
  split
  · rfl
  · split <;> rfl

theorem outcome_loop {options : Options} {check : Nat → Text → List Diagnostic} {index : Nat}
    {source next : Text} (h : round options (check index source) source = .ok next)
    (rounds : Nat) :
    (loop options check (rounds + 1) index source).outcome =
      if next = source then .done next
      else (loop options check rounds (index + 1) next).outcome := by
  simp only [loop_succ, h, beq_iff_eq]
  split <;> rfl

/-- More rounds than a run needs do not change it. -/
theorem loop_of_finished {options : Options} {check : Nat → Text → List Diagnostic}
    {rounds index : Nat} {source : Text}
    (h : (loop options check rounds index source).outcome ≠ .unfinished) (more : Nat) :
    loop options check (rounds + more) index source = loop options check rounds index source := by
  induction rounds generalizing index source with
  | zero => simp at h
  | succ rounds ih =>
    rw [Nat.add_right_comm]
    simp only [loop_succ] at h ⊢
    cases hround : round options (check index source) source with
    | error fault => rfl
    | ok next =>
      simp only [hround] at h ⊢
      split at h
      · rename_i hsame
        rw [if_pos hsame, if_pos hsame]
      · rename_i hnew
        rw [if_neg hnew, if_neg hnew, ih h]

theorem fixCode_of_finished {options : Options} {check : Nat → Text → List Diagnostic}
    {rounds : Nat} {source : Text}
    (h : (fixCode options check rounds source).outcome ≠ .unfinished) (more : Nat) :
    fixCode options check (rounds + more) source = fixCode options check rounds source := by
  unfold fixCode at h ⊢
  split
  · rfl
  · rename_i hsource
    rw [if_neg hsource] at h
    exact loop_of_finished h more

end Pruner.Fix
