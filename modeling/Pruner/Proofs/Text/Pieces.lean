import Pruner.Text.Basic
import Mathlib.Algebra.GroupWithZero.Nat
import Mathlib.Data.List.Basic
import Mathlib.Data.List.Infix

namespace Pruner.Text

/-- To prove something of every text, add one piece and a separator at a time in front. -/
theorem separator_induction (sep : Char) {P : Text → Prop} (last : ∀ s, sep ∉ s → P s)
    (cons : ∀ s t, sep ∉ s → P t → P (s ++ sep :: t)) (t : Text) : P t := by
  induction hn : t.length using Nat.strongRecOn generalizing t with
  | _ n ih =>
    by_cases hmem : sep ∈ t
    · obtain ⟨s, rest, rfl, hs⟩ := List.eq_append_cons_of_mem hmem
      refine cons s rest hs (ih rest.length ?_ rest rfl)
      simp only [List.length_append, List.length_cons] at hn
      omega
    · exact last t hmem

theorem pieces_go_eq (p : Char → Bool) (held t : Text) :
    pieces.go p held t = List.splitOnPPrepend p t held := by
  induction t generalizing held with
  | nil => rfl
  | cons c cs ih =>
    rw [pieces.go, List.splitOnPPrepend_cons_eq_if, ih, ih, List.splitOnPPrepend_nil_right]

theorem pieces_eq_splitOnP (p : Char → Bool) (t : Text) : pieces p t = t.splitOnP p :=
  pieces_go_eq p [] t

theorem pieces_of_not_mem {sep : Char} {t : Text} (h : sep ∉ t) : pieces (· == sep) t = [t] := by
  rw [pieces_eq_splitOnP, ← List.splitOn_eq_splitOnP, List.splitOn_eq_singleton h]

theorem pieces_append_separator (sep : Char) (s t : Text) :
    pieces (· == sep) (s ++ sep :: t) = pieces (· == sep) s ++ pieces (· == sep) t := by
  rw [pieces_eq_splitOnP, pieces_eq_splitOnP, pieces_eq_splitOnP, ← List.splitOn_eq_splitOnP,
    ← List.splitOn_eq_splitOnP, ← List.splitOn_eq_splitOnP, List.splitOn_append_cons_self]

theorem pieces_separator {sep : Char} {s : Text} (h : sep ∉ s) (t : Text) :
    pieces (· == sep) (s ++ sep :: t) = s :: pieces (· == sep) t := by
  rw [pieces_append_separator, pieces_of_not_mem h, List.singleton_append]

theorem commaPieces_eq_splitOn (t : Text) : commaPieces t = t.splitOn ',' :=
  pieces_eq_splitOnP _ t

theorem join_eq_intercalate (sep : Text) (parts : List Text) :
    join sep parts = sep.intercalate parts := by
  induction parts with
  | nil => rfl
  | cons t ts ih =>
    cases ts with
    | nil => simp [join]
    | cons u us => rw [join, ih, List.intercalate_cons_cons]

/-- The pieces hold every character of the text but the separators. -/
theorem pieces_flatten (p : Char → Bool) (t : Text) :
    (pieces p t).flatten = t.filter (!p ·) := by
  rw [pieces_eq_splitOnP]
  induction t with
  | nil => simp
  | cons c cs ih =>
    obtain ⟨piece, rest, hrest⟩ := List.exists_cons_of_ne_nil (List.splitOnP_ne_nil p cs)
    rw [List.splitOnP_cons_eq_if_modifyHead]
    rw [hrest] at ih ⊢
    by_cases hc : p c = true
    · simpa [hc] using ih
    · simpa [hc] using ih

theorem piece_sublist {p : Char → Bool} {t x : Text} (hx : x ∈ pieces p t) : x.Sublist t := by
  have hflat : x.Sublist (pieces p t).flatten := List.sublist_flatten_of_mem hx
  rw [pieces_flatten] at hflat
  exact hflat.trans List.filter_sublist

theorem not_mem_separator {p : Char → Bool} {t x : Text} (hx : x ∈ pieces p t) :
    ∀ c ∈ x, p c = false := by
  intro c hc
  have hmem : c ∈ (pieces p t).flatten := List.mem_flatten.mpr ⟨x, hx, hc⟩
  rw [pieces_flatten] at hmem
  simpa using (List.mem_filter.mp hmem).2

/-- There is one piece more than there are separators. -/
theorem length_pieces (p : Char → Bool) (t : Text) : (pieces p t).length = t.countP p + 1 := by
  rw [pieces_eq_splitOnP]
  induction t with
  | nil => simp
  | cons c cs ih =>
    rw [List.splitOnP_cons_eq_if_modifyHead]
    by_cases hc : p c = true
    · simp [hc, ih]
    · simp [hc, ih]

theorem comma_not_mem_piece {t x : Text} (hx : x ∈ commaPieces t) : ',' ∉ x := by
  intro hmem
  have hne := not_mem_separator hx ',' hmem
  simp at hne

theorem commaPieces_join {parts : List Text} (hne : parts ≠ []) (h : ∀ x ∈ parts, ',' ∉ x) :
    commaPieces (join [','] parts) = parts := by
  rw [commaPieces_eq_splitOn, join_eq_intercalate]
  exact List.splitOn_intercalate ',' h hne

/-- A comma and a space between the parts leave a space in front of all pieces but the first. -/
theorem join_comma_space (x : Text) (rest : List Text) :
    join ", ".toList (x :: rest) = join [','] (x :: rest.map (' ' :: ·)) := by
  induction rest generalizing x with
  | nil => rfl
  | cons y ys ih =>
    rw [join, ih]
    cases ys with
    | nil => simp [join]
    | cons z zs => simp [join]

theorem mem_of_mem_join {sep : Text} {parts : List Text} {c : Char} (h : c ∈ join sep parts) :
    c ∈ sep ∨ ∃ x ∈ parts, c ∈ x := by
  induction parts with
  | nil => simp [join] at h
  | cons t ts ih =>
    cases ts with
    | nil => exact Or.inr ⟨t, by simp, h⟩
    | cons u us =>
      rw [join, List.mem_append, List.mem_append] at h
      rcases h with (h | h) | h
      · exact Or.inr ⟨t, by simp, h⟩
      · exact Or.inl h
      · rcases ih h with h | ⟨x, hx, h⟩
        · exact Or.inl h
        · exact Or.inr ⟨x, List.mem_cons_of_mem t hx, h⟩

theorem countP_join (q : Char → Bool) (sep x : Text) (rest : List Text) :
    (join sep (x :: rest)).countP q =
      ((x :: rest).map (List.countP q)).sum + rest.length * sep.countP q := by
  induction rest generalizing x with
  | nil => simp [join]
  | cons y ys ih =>
    rw [join, List.countP_append, List.countP_append, ih]
    simp only [List.map_cons, List.sum_cons, List.length_cons, Nat.add_mul, Nat.one_mul]
    omega

theorem textLe_trans {a b c : Text} (hab : le a b = true) (hbc : le b c = true) : le a c = true := by
  induction a generalizing b c with
  | nil => rfl
  | cons x xs ih =>
    cases b with
    | nil => simp [le] at hab
    | cons y ys =>
      cases c with
      | nil => simp [le] at hbc
      | cons z zs =>
        simp only [le, Bool.or_eq_true, Bool.and_eq_true, decide_eq_true_eq, beq_iff_eq] at hab hbc ⊢
        rcases hab with hxy | ⟨rfl, hxy⟩
        · rcases hbc with hyz | ⟨rfl, hyz⟩
          · exact Or.inl (by omega)
          · exact Or.inl hxy
        · rcases hbc with hyz | ⟨rfl, hyz⟩
          · exact Or.inl hyz
          · exact Or.inr ⟨rfl, ih hxy hyz⟩

theorem textLe_total (a b : Text) : (le a b || le b a) = true := by
  induction a generalizing b with
  | nil => rfl
  | cons x xs ih =>
    cases b with
    | nil => rfl
    | cons y ys =>
      rcases Nat.lt_trichotomy x.toNat y.toNat with h | h | h
      · simp [le, h]
      · have hxy : x = y := Char.toNat_inj.mp h
        subst hxy
        simpa [le] using ih ys
      · simp [le, h]

theorem sort_perm (ts : List Text) : (sort ts).Perm ts :=
  List.mergeSort_perm ts le

theorem sort_sorted (ts : List Text) : (sort ts).Pairwise fun a b => le a b = true :=
  @List.pairwise_mergeSort Text le (fun _ _ _ hab hbc => textLe_trans hab hbc) textLe_total ts

theorem sort_sort (ts : List Text) : sort (sort ts) = sort ts :=
  List.mergeSort_of_pairwise (sort_sorted ts)

theorem textLe_antisymm {a b : Text} (hab : le a b = true) (hba : le b a = true) : a = b := by
  induction a generalizing b with
  | nil =>
    cases b with
    | nil => rfl
    | cons y ys => simp [le] at hba
  | cons x xs ih =>
    cases b with
    | nil => simp [le] at hab
    | cons y ys =>
      simp only [le, Bool.or_eq_true, Bool.and_eq_true, decide_eq_true_eq, beq_iff_eq] at hab hba
      rcases hab with hxy | ⟨rfl, hxy⟩
      · -- The first characters cannot be smaller both ways.
        rcases hba with hyx | ⟨rfl, -⟩ <;> omega
      · rcases hba with hyx | ⟨-, hyx⟩
        · omega
        · rw [ih hxy hyx]

theorem nodup_eraseDups {α : Type} [BEq α] [LawfulBEq α] (xs : List α) : xs.eraseDups.Nodup := by
  induction hn : xs.length using Nat.strongRecOn generalizing xs with
  | _ n ih =>
    cases xs with
    | nil => exact List.nodup_nil
    | cons x xs =>
      have hless : (xs.filter (!· == x)).length < n := by
        have hle := List.length_filter_le (!· == x) xs
        rw [List.length_cons] at hn
        omega
      rw [List.eraseDups_cons, List.nodup_cons]
      refine ⟨?_, ih _ hless _ rfl⟩
      rw [List.mem_eraseDups, List.mem_filter]
      simp

/-- What is left of a list without repetition depends on its members only, up to the order. -/
theorem eraseDups_perm {α : Type} [BEq α] [LawfulBEq α] {xs ys : List α}
    (h : ∀ x, x ∈ xs ↔ x ∈ ys) : xs.eraseDups.Perm ys.eraseDups := by
  rw [List.perm_ext_iff_of_nodup (nodup_eraseDups xs) (nodup_eraseDups ys)]
  intro x
  rw [List.mem_eraseDups, List.mem_eraseDups, h]

/-- Sorting without repetition depends on the members only. -/
theorem sortDistinct_congr {ts us : List Text} (h : ∀ t, t ∈ ts ↔ t ∈ us) :
    sortDistinct ts = sortDistinct us := by
  have hperm : (sortDistinct ts).Perm (sortDistinct us) :=
    (sort_perm _).trans ((eraseDups_perm h).trans (sort_perm _).symm)
  exact hperm.eq_of_pairwise (fun _ _ _ _ => textLe_antisymm) (sort_sorted _) (sort_sorted _)

end Pruner.Text
