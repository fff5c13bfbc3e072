import Pruner.Proofs.Token.Move

namespace Pruner.Token

open Pruner.Text

/-- A text without quotes. -/
def Unquoted (t : Text) : Prop :=
  ∀ c ∈ t, isQuote c = false

theorem stringMarkRun_of_unquoted {t : Text} (h : Unquoted t) : stringMarkRun t = none := by
  cases t with
  | nil => rfl
  | cons a t =>
    unfold stringMarkRun
    dsimp only
    rw [h a (by simp)]
    cases t with
    | nil => rfl
    | cons b t =>
      dsimp only
      rw [h b (by simp)]
      cases t with
      | nil => rfl
      | cons c t =>
        dsimp only
        rw [h c (by simp)]
        rfl

/-- Characters that start no number, operator, comment or join. -/
structure IsOrdinary (c : Char) : Prop where
  not_digit : isDigit c = false
  not_operator : c ∉ '!' :: oneCharOperators
  not_special : c ∉ "\\#".toList

theorem operator_heads : (longOperators ++ twoCharOperators).all
    (fun op => op.head?.any ('!' :: oneCharOperators).contains) = true := by
  decide

theorem operatorRun_of_ordinary {c : Char} (h : IsOrdinary c) (cs : Text) :
    operatorRun (c :: cs) = 0 := by
  have hnot (rest : Text) : c :: rest ∉ longOperators ++ twoCharOperators := by
    intro hmem
    have hhead := List.all_eq_true.mp operator_heads _ hmem
    rw [List.head?_cons, Option.any_some, List.contains_iff_mem] at hhead
    exact h.not_operator hhead
  have hlong : longOperators.contains ((c :: cs).take 3) = false := by
    rw [List.contains_eq_mem, decide_eq_false_iff_not]
    exact fun hmem => hnot _ (List.mem_append_left _ hmem)
  have htwo : twoCharOperators.contains ((c :: cs).take 2) = false := by
    rw [List.contains_eq_mem, decide_eq_false_iff_not]
    exact fun hmem => hnot _ (List.mem_append_right _ hmem)
  have hone : oneCharOperators.contains c = false := by
    rw [List.contains_eq_mem, decide_eq_false_iff_not]
    exact fun hmem => h.not_operator (List.mem_cons_of_mem _ hmem)
  rw [operatorRun, hlong, htwo, List.head?_cons, Option.any_some, hone]
  rfl

theorem numberRun_of_ordinary {c : Char} (h : IsOrdinary c) (cs : Text) :
    numberRun (c :: cs) = 0 := by
  have hpoint : c ≠ '.' := by
    rintro rfl
    exact h.not_operator (by decide)
  have hwhole : decimalRun (c :: cs) = 0 := by
    rw [decimalRun, h.not_digit]
    rfl
  rw [numberRun, hwhole, List.drop_zero]
  split
  · rename_i hdrop
    exact absurd (List.cons.inj hdrop).1 hpoint
  · rfl

/-- An ordinary character that marks no string starts a line end or a word, or has no shape. -/
theorem shape?_of_ordinary {c : Char} {cs : Text} (h : IsOrdinary c)
    (hmark : stringMarkRun (c :: cs) = none) :
    shape? (c :: cs) =
      if newlineRun (c :: cs) ≠ 0 then some (.newline, newlineRun (c :: cs))
      else if isWord c then some (.word, ((c :: cs).takeWhile isWord).length)
      else none := by
  have hslash : (c == '\\') = false := by
    rw [beq_eq_false_iff_ne]
    rintro rfl
    exact h.not_special (by decide)
  have hhash : (c == '#') = false := by
    rw [beq_eq_false_iff_ne]
    rintro rfl
    exact h.not_special (by decide)
  rw [shape?, hslash, hhash, hmark, numberRun_of_ordinary h, operatorRun_of_ordinary h]
  by_cases hword : isWord c = true
  · simp [hword]
  · simp [hword]

theorem not_mem_of_all {q : Char → Bool} {c : Char} {table : Text} (hc : q c = true)
    (h : table.all (!q ·) = true) : c ∉ table := by
  intro hmem
  simpa [hc] using List.all_eq_true.mp h c hmem

theorem newlineRun_of_isWord {c : Char} (h : isWord c = true) (cs : Text) :
    newlineRun (c :: cs) = 0 := by
  have hnot : c ∉ ['\n', '\r'] := not_mem_of_all h (by decide)
  unfold newlineRun
  split
  · rename_i hcons
    exact absurd (by rw [(List.cons.inj hcons).1]; decide) hnot
  · rename_i hcons
    exact absurd (by rw [(List.cons.inj hcons).1]; decide) hnot
  · rfl

/-- A word is read up to its end. -/
theorem shape?_word {c : Char} {cs : Text} (hword : isWord c = true) (hdigit : isDigit c = false)
    (hq : Unquoted (c :: cs)) :
    shape? (c :: cs) = some (.word, ((c :: cs).takeWhile isWord).length) := by
  have hordinary : IsOrdinary c :=
    ⟨hdigit, not_mem_of_all hword (by decide), not_mem_of_all hword (by decide)⟩
  rw [shape?_of_ordinary hordinary (stringMarkRun_of_unquoted hq), newlineRun_of_isWord hword,
    if_neg (by simp), if_pos hword]

theorem isWord_of_range {c : Char} {low high : Nat} (hlow : low ≤ c.toNat) (hhigh : c.toNat ≤ high)
    (hrange : 48 ≤ low ∧ high ≤ 57 ∨ 65 ≤ low ∧ high ≤ 90) : isWord c = true := by
  rw [isWord, if_pos (by omega)]
  simp only [Bool.or_eq_true, Bool.and_eq_true, decide_eq_true_eq, beq_iff_eq]
  omega

theorem isDigit_of_isBlank {c : Char} (h : isBlank c = true) : isDigit c = false := by
  by_contra hdigit
  simp only [isDigit, Bool.and_eq_true, decide_eq_true_eq, Bool.not_eq_false, Char.le_def,
    UInt32.le_iff_toNat_le] at hdigit
  have hword : isWord c = true := isWord_of_range hdigit.1 hdigit.2 (by decide)
  rw [isWord_eq_false_of_isBlank h] at hword
  simp at hword

theorem lower_of_isBlank {c : Char} (h : isBlank c = true) : lower c = c := by
  rw [lower, if_neg]
  intro hupper
  simp only [Char.le_def, UInt32.le_iff_toNat_le] at hupper
  have hword : isWord c = true := isWord_of_range hupper.1 hupper.2 (by decide)
  rw [isWord_eq_false_of_isBlank h] at hword
  simp at hword

theorem stringMarkRun_of_isBlank {c : Char} (h : isBlank c = true) (cs : Text) :
    stringMarkRun (c :: cs) = none := by
  have hquote : isQuote c = false := by
    have hnot : c ∉ "'\"".toList := not_mem_of_all h (by decide)
    simpa [isQuote] using hnot
  have hmark : c ∉ ['b', 'r', 'u', 'f'] := not_mem_of_all h (by decide)
  unfold stringMarkRun
  dsimp only
  rw [hquote, lower_of_isBlank h]
  cases cs with
  | nil => rfl
  | cons b cs =>
    cases cs with
    | nil => simp_all
    | cons d cs => simp_all

/-- A string is closed by its quote. -/
theorem quote_mem_of_closingRun {triple : Bool} {quote : Char} {t : Text} {n : Nat}
    (h : closingRun triple quote t = some n) : quote ∈ t := by
  fun_induction closingRun triple quote t generalizing n with
  | case1 => simp at h
  | case2 => simp at h
  | case3 c cs _ ih =>
    obtain ⟨k, hk, -⟩ := Option.map_eq_some_iff.mp h
    exact List.mem_cons_of_mem _ (List.mem_cons_of_mem c (ih hk))
  | case4 c cs _ _ hquote => simp [beq_iff_eq.mp hquote]
  | case5 c cs _ _ hquote => simp [beq_iff_eq.mp hquote]
  | case6 c cs _ _ hquote => simp [beq_iff_eq.mp hquote]
  | case7 c cs _ _ _ ih =>
    obtain ⟨k, hk, -⟩ := Option.map_eq_some_iff.mp h
    exact List.mem_cons_of_mem c (ih hk)

/-- A blank starts a line end or has no shape. -/
theorem shape?_blank {c : Char} (h : isBlank c = true) (cs : Text) :
    shape? (c :: cs) =
      if newlineRun (c :: cs) ≠ 0 then some (.newline, newlineRun (c :: cs)) else none := by
  have hordinary : IsOrdinary c :=
    ⟨isDigit_of_isBlank h, not_mem_of_all h (by decide), not_mem_of_all h (by decide)⟩
  rw [shape?_of_ordinary hordinary (stringMarkRun_of_isBlank h cs), isWord_eq_false_of_isBlank h]
  rfl

end Pruner.Token
