import Pruner.Proofs.Literal.Forms
import Pruner.Proofs.Token.Runs

namespace Pruner.Syntax

open Pruner.Text Pruner.Token

/-- The characters taken off the front of a text are no blanks. -/
def Visible (t : Text) (n : Nat) : Prop :=
  ∀ c ∈ t.take n, isBlank c = false

section Visible

variable {t : Text} {n m : Nat}

theorem visible_zero (t : Text) : Visible t 0 := by
  simp [Visible]

theorem Visible.add (hn : Visible t n) (hm : Visible (t.drop n) m) : Visible t (n + m) := by
  intro c hc
  rw [List.take_add, List.mem_append] at hc
  exact hc.elim (hn c) (hm c)

theorem visible_cons {c : Char} {cs : Text} (hc : isBlank c = false) (hn : Visible cs n) :
    Visible (c :: cs) (n + 1) := by
  intro d hd
  rw [List.take_succ_cons, List.mem_cons] at hd
  rcases hd with rfl | hd
  · exact hc
  · exact hn d hd

/-- Visible characters end before a blank. -/
theorem Visible.le {c : Char} (hc : isBlank c = true) (h : Visible (t ++ [c]) n) :
    n ≤ t.length := by
  by_contra hlong
  have hall : (t ++ [c]).take n = t ++ [c] := by
    apply List.take_of_length_le
    rw [List.length_append, List.length_singleton]
    omega
  have hlast := h c (by simp [hall])
  rw [hc] at hlast
  contradiction

end Visible

section Numbers

variable {t : Text} {n : Nat}

theorem visible_of_areDigits {p : Char → Bool} (hp : AreDigits p) {c : Char} (hc : p c = true) :
    isBlank c = false := by
  by_contra hblank
  rw [Bool.not_eq_false] at hblank
  rw [hp.eq_false (isHexDigit_of_isBlank hblank)] at hc
  contradiction

theorem visible_strictRun? {p : Char → Bool} (hp : AreDigits p) (h : strictRun? p t = some n) :
    Visible t n := by
  have hunderscore : isBlank '_' = false := by decide
  fun_induction strictRun? p t generalizing n with
  | case1 =>
    obtain rfl := Option.some.inj h
    exact visible_zero []
  | case2 c hc d ds hd ih =>
    obtain rfl : c = '_' := by simpa using hc
    obtain ⟨k, hk, rfl⟩ := Option.map_eq_some_iff.mp h
    exact visible_cons hunderscore (visible_cons (visible_of_areDigits hp hd) (ih hk))
  | case3 => contradiction
  | case4 => contradiction
  | case5 c cs hc hd ih =>
    obtain ⟨k, hk, rfl⟩ := Option.map_eq_some_iff.mp h
    exact visible_cons (visible_of_areDigits hp hd) (ih hk)
  | case6 =>
    obtain rfl := Option.some.inj h
    exact visible_zero _

theorem visible_exponentRun? (h : exponentRun? t = some n) : Visible t n := by
  have hdigits := areDigits_decimal
  have he : ∀ c, (c == 'e' || c == 'E') = true → isBlank c = false := by
    intro c hc
    rcases (by simpa using hc : c = 'e' ∨ c = 'E') with rfl | rfl <;> decide
  have hsign : ∀ c, (c == '+' || c == '-') = true → isBlank c = false := by
    intro c hc
    rcases (by simpa using hc : c = '+' ∨ c = '-') with rfl | rfl <;> decide
  rw [exponentRun?.eq_def] at h
  split at h
  · rename_i e c cs
    split at h
    · rename_i hexponent
      split at h
      · rename_i hc
        split at h
        · obtain ⟨k, hk, rfl⟩ := Option.map_eq_some_iff.mp h
          exact visible_cons (he e hexponent) (visible_cons (hsign c hc) (visible_strictRun? hdigits hk))
        · cases h
      · split at h
        · obtain ⟨k, hk, rfl⟩ := Option.map_eq_some_iff.mp h
          exact visible_cons (he e hexponent) (visible_strictRun? hdigits hk)
        · obtain rfl := Option.some.inj h
          exact visible_zero _
    · obtain rfl := Option.some.inj h
      exact visible_zero _
  · obtain rfl := Option.some.inj h
    exact visible_zero _

/-- A number ends where something may follow it. -/
structure IsExtent (t : Text) (n : Nat) : Prop where
  visible : Visible t n
  follow : mayFollowNumber (t.drop n) = true

theorem IsExtent.add {m : Nat} (hn : Visible t n) (hm : IsExtent (t.drop n) m) :
    IsExtent t (n + m) :=
  ⟨hn.add hm.visible, by rw [← List.drop_drop]; exact hm.follow⟩

/-- The exponent and the unit of a number, after its fraction. -/
def afterFraction? (t : Text) (fraction : Nat) : Option Nat := do
  let exponent ← exponentRun? (t.drop fraction)
  let rest := (t.drop fraction).drop exponent
  if rest.head? == some 'j' || rest.head? == some 'J' then
    if mayFollowNumber (rest.drop 1) then some (fraction + exponent + 1) else none
  else if mayFollowNumber rest then some (fraction + exponent)
  else none

theorem isExtent_afterFraction? {fraction : Nat} (hfraction : Visible t fraction)
    (h : afterFraction? t fraction = some n) : IsExtent t n ∧ fraction ≤ n := by
  rw [afterFraction?] at h
  obtain ⟨exponent, hexponent, h⟩ := Option.bind_eq_some_iff.mp h
  have hvisible : Visible t (fraction + exponent) :=
    hfraction.add (visible_exponentRun? hexponent)
  rw [List.drop_drop] at h
  dsimp only at h
  split at h
  · rename_i hunit
    split at h
    · rename_i hfollow
      obtain rfl := Option.some.inj h
      refine ⟨IsExtent.add hvisible ⟨?_, hfollow⟩, by omega⟩
      cases hrest : t.drop (fraction + exponent) with
      | nil => simp [hrest] at hunit
      | cons c cs =>
        apply visible_cons ?_ (visible_zero cs)
        rcases (by simpa [hrest] using hunit : c = 'j' ∨ c = 'J') with rfl | rfl <;> decide
    · contradiction
  · split at h
    · rename_i hfollow
      obtain rfl := Option.some.inj h
      exact ⟨⟨hvisible, hfollow⟩, by omega⟩
    · contradiction

/-- A tail that starts with a point is not empty. -/
theorem isExtent_decimalTail? (h : decimalTail? t = some n) :
    IsExtent t n ∧ (t.head? = some '.' → 0 < n) := by
  have hpoint : isBlank '.' = false := by decide
  rw [decimalTail?.eq_def] at h
  split at h
  · rename_i cs
    have hpointed {fraction : Nat} (hfraction : Visible cs fraction)
        (h : afterFraction? ('.' :: cs) (fraction + 1) = some n) :
        IsExtent ('.' :: cs) n ∧ (('.' :: cs).head? = some '.' → 0 < n) := by
      obtain ⟨hextent, hle⟩ := isExtent_afterFraction? (visible_cons hpoint hfraction) h
      exact ⟨hextent, fun _ => by omega⟩
    split at h
    · obtain ⟨fraction, hfraction, h⟩ := Option.bind_eq_some_iff.mp h
      obtain ⟨k, hk, rfl⟩ := Option.map_eq_some_iff.mp hfraction
      exact hpointed (visible_strictRun? areDigits_decimal hk) h
    · exact hpointed (visible_zero cs) h
  · rename_i hne
    refine ⟨(isExtent_afterFraction? (visible_zero t) h).1, fun hhead => ?_⟩
    obtain ⟨cs, rfl⟩ := List.head?_eq_some_iff.mp hhead
    exact absurd rfl (hne cs)

theorem isExtent_basedRun? {p : Char → Bool} (hp : AreDigits p) {a b : Char}
    (hab : isBlank a = false ∧ isBlank b = false) (h : basedRun? p t = some n) :
    0 < n ∧ IsExtent (a :: b :: t) n := by
  rw [basedRun?] at h
  dsimp only at h
  generalize (if (t.head? == some '_') = true then t.drop 1 else t) = digits at h
  split at h
  · obtain ⟨k, hk, h⟩ := Option.bind_eq_some_iff.mp h
    split at h
    · contradiction
    · rename_i hfollow
      obtain rfl := Option.some.inj h
      refine ⟨by omega, visible_cons hab.1 (visible_cons hab.2 (visible_strictRun? hp hk)), ?_⟩
      simp only [Bool.or_eq_true, not_or, Bool.not_eq_true', Bool.not_eq_false] at hfollow
      exact hfollow.2
  · contradiction

theorem strictRun?_pos {p : Char → Bool} {c : Char} {cs : Text} (hc : p c = true) (hne : c ≠ '_')
    (h : strictRun? p (c :: cs) = some n) : 0 < n := by
  rw [strictRun?.eq_def] at h
  dsimp only at h
  rw [if_neg (by simpa using hne), if_pos hc] at h
  obtain ⟨k, -, rfl⟩ := Option.map_eq_some_iff.mp h
  exact Nat.succ_pos k

/-- Digits and what may follow them in a decimal number. -/
theorem isExtent_decimal {m : Nat} {c : Char} {cs : Text} (hc : isDigit c = true)
    (hn : strictRun? isDigit (c :: cs) = some n)
    (hm : decimalTail? ((c :: cs).drop n) = some m) : 0 < n + m ∧ IsExtent (c :: cs) (n + m) := by
  have hpos := strictRun?_pos hc (ne_of_isDigit hc (by decide)) hn
  refine ⟨by omega, ?_⟩
  exact IsExtent.add (visible_strictRun? areDigits_decimal hn) (isExtent_decimalTail? hm).1

/-- A number has at least one character and no blank, and ends where something may follow it. -/
theorem isExtent_numberLength? {c : Char} {cs : Text} (hstart : isDigit c = true ∨ c = '.')
    (h : numberLength? (c :: cs) = some n) : 0 < n ∧ IsExtent (c :: cs) n := by
  have hzero : isBlank '0' = false := by decide
  have hbase (a b : Char) (hab : isBlank a = false ∧ isBlank b = false) {d : Char}
      (hd : (d == a || d == b) = true) : isBlank '0' = false ∧ isBlank d = false := by
    rcases (by simpa using hd : d = a ∨ d = b) with rfl | rfl
    · exact ⟨hzero, hab.1⟩
    · exact ⟨hzero, hab.2⟩
  rw [numberLength?.eq_def] at h
  split at h
  · rename_i rest heq
    obtain ⟨rfl, rfl⟩ := List.cons.inj heq
    obtain ⟨hextent, hpos⟩ := isExtent_decimalTail? h
    exact ⟨hpos rfl, hextent⟩
  · rename_i d ds heq
    obtain ⟨rfl, rfl⟩ := List.cons.inj heq
    split at h
    · rename_i hd
      exact isExtent_basedRun? (fun _ h => h) (hbase 'x' 'X' (by decide) hd) h
    · split at h
      · rename_i hd
        exact isExtent_basedRun? areDigits_octal (hbase 'o' 'O' (by decide) hd) h
      · split at h
        · rename_i hd
          exact isExtent_basedRun? areDigits_binary (hbase 'b' 'B' (by decide) hd) h
        · obtain ⟨k, hk, h⟩ := Option.bind_eq_some_iff.mp h
          obtain ⟨m, hm, h⟩ := Option.bind_eq_some_iff.mp h
          dsimp only at h
          split at h
          · cases h
          · obtain rfl := Option.some.inj h
            exact isExtent_decimal (by decide) hk hm
  · rename_i hpoint _
    have hc : isDigit c = true := by
      apply hstart.resolve_right
      rintro rfl
      exact hpoint cs rfl
    obtain ⟨k, hk, h⟩ := Option.bind_eq_some_iff.mp h
    obtain ⟨m, hm, h⟩ := Option.bind_eq_some_iff.mp h
    obtain rfl := Option.some.inj h
    exact isExtent_decimal hc hk hm

end Numbers

section Operators

/-- An operator has no blank. -/
theorem visible_operatorRun (t : Text) : Visible t (operatorRun t) := by
  have hlong : longOperators.all (·.all (!isBlank ·)) = true := by decide
  have htwo : twoCharOperators.all (·.all (!isBlank ·)) = true := by decide
  have hone : oneCharOperators.all (!isBlank ·) = true := by decide
  have htable {table : List Text} (htable : table.all (·.all (!isBlank ·)) = true) {n : Nat}
      (h : table.contains (t.take n) = true) : Visible t n := by
    have hop := List.all_eq_true.mp htable _ (List.contains_iff_mem.mp h)
    intro c hc
    exact isBlank_eq_false_of_all hop hc
  rw [operatorRun]
  split
  · rename_i h
    exact htable hlong h
  · split
    · rename_i h
      exact htable htwo h
    · split
      · rename_i h
        cases t with
        | nil => simp at h
        | cons c cs =>
          rw [List.head?_cons, Option.any_some, List.contains_iff_mem] at h
          exact visible_cons (isBlank_eq_false_of_all hone h) (visible_zero cs)
      · exact visible_zero t

end Operators

section Strings

/-- The first `n` characters of a text end with the given one. -/
def EndsAt (quote : Char) (t : Text) (n : Nat) : Prop :=
  ∃ u v : Text, t = u ++ quote :: v ∧ n = u.length + 1

variable {t : Text} {n : Nat} {quote : Char}

theorem EndsAt.append (h : EndsAt quote t n) (s : Text) : EndsAt quote (s ++ t) (s.length + n) := by
  obtain ⟨u, v, rfl, rfl⟩ := h
  exact ⟨s ++ u, v, by simp, by simp [Nat.add_assoc]⟩

theorem EndsAt.cons (h : EndsAt quote t n) (c : Char) : EndsAt quote (c :: t) (n + 1) := by
  rw [Nat.add_comm]
  exact h.append [c]

theorem EndsAt.pos (h : EndsAt quote t n) : 0 < n := by
  obtain ⟨u, v, -, rfl⟩ := h
  exact Nat.succ_pos _

/-- What ends with a quote leaves out another last character. -/
theorem EndsAt.le {c : Char} (hc : c ≠ quote) (h : EndsAt quote (t ++ [c]) n) : n ≤ t.length := by
  obtain ⟨u, v, hsplit, rfl⟩ := h
  have hlength := congrArg List.length hsplit
  simp only [List.length_append, List.length_cons, List.length_nil] at hlength
  by_contra hlong
  obtain rfl : v = [] := List.eq_nil_of_length_eq_zero (by omega)
  exact hc (List.cons.inj (List.append_inj' hsplit rfl).2).1

theorem endsAt_single (h : stringLength?.single quote t = some n) : EndsAt quote t n := by
  fun_induction stringLength?.single quote t generalizing n with
  | case1 => contradiction
  | case2 c cs ih =>
    obtain ⟨k, hk, rfl⟩ := Option.map_eq_some_iff.mp h
    exact ((ih hk).cons c).cons '\\'
  | case3 c cs _ hc =>
    obtain rfl := Option.some.inj h
    obtain rfl : c = quote := by simpa using hc
    exact ⟨[], cs, rfl, rfl⟩
  | case4 => contradiction
  | case5 c cs _ _ _ ih =>
    obtain ⟨k, hk, rfl⟩ := Option.map_eq_some_iff.mp h
    exact (ih hk).cons c

theorem endsAt_triple (h : stringLength?.triple quote t = some n) : EndsAt quote t n := by
  fun_induction stringLength?.triple quote t generalizing n with
  | case1 => contradiction
  | case2 c cs ih =>
    obtain ⟨k, hk, rfl⟩ := Option.map_eq_some_iff.mp h
    exact ((ih hk).cons c).cons '\\'
  | case3 c cs _ hc =>
    obtain rfl := Option.some.inj h
    obtain ⟨hquote, hopens⟩ : c = quote ∧ [quote, quote] <+: cs := by simpa using hc
    obtain ⟨v, rfl⟩ := hopens
    exact ⟨[c, quote], v, rfl, rfl⟩
  | case4 c cs _ _ ih =>
    obtain ⟨k, hk, rfl⟩ := Option.map_eq_some_iff.mp h
    exact (ih hk).cons c

/-- A string ends with the quote that it starts with. -/
theorem endsAt_stringLength? {rest : Text} (h : stringLength? (quote :: rest) = some n) :
    EndsAt quote (quote :: rest) n := by
  rw [stringLength?.eq_def] at h
  dsimp only at h
  split at h
  · rename_i hopens
    obtain ⟨k, hk, rfl⟩ := Option.map_eq_some_iff.mp h
    obtain ⟨tail, rfl⟩ := List.isPrefixOf_iff_prefix.mp hopens
    exact (((endsAt_triple hk).cons quote).cons quote).cons quote
  · obtain ⟨k, hk, rfl⟩ := Option.map_eq_some_iff.mp h
    exact (endsAt_single hk).cons quote

end Strings

end Pruner.Syntax
