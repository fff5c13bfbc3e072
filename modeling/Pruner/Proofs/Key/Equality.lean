import Pruner.Constant
import Mathlib.Algebra.Order.Field.Power
import Mathlib.Tactic.NormNum

namespace Pruner

namespace Binary64

/-- A rational number, or an infinity with its sign. -/
def value : Binary64 → ℚ ⊕ Bool
  | .finite s m e => .inl (signed s m * (2 : ℚ) ^ e)
  | .infinite s => .inr s

theorem cast_power (n : Nat) : ((power 2 n : Nat) : ℚ) = 2 ^ n := by
  rw [power, Nat.pow_eq, Nat.cast_pow]
  norm_num

/-- Two mantissas, brought to an exponent that is below both of theirs, are equal exactly if the
numbers are. -/
theorem shifted_eq_iff {a b e e' low : Int} (he : low ≤ e) (he' : low ≤ e') :
    a * (power 2 (e - low).toNat : Int) = b * (power 2 (e' - low).toNat : Int) ↔
      (a : ℚ) * 2 ^ e = b * 2 ^ e' := by
  have hshift (c : Int) {k : Int} (hk : low ≤ k) :
      (c : ℚ) * 2 ^ k = ((c * (power 2 (k - low).toNat : Int) : Int) : ℚ) * 2 ^ low := by
    have hnat : (2 : ℚ) ^ (k - low).toNat = 2 ^ (k - low) := by
      rw [← zpow_natCast, Int.toNat_of_nonneg (by omega)]
    have hsum : (2 : ℚ) ^ k = 2 ^ (k - low) * 2 ^ low := by
      rw [← zpow_add₀ (by norm_num), Int.sub_add_cancel]
    rw [Int.cast_mul, Int.cast_natCast, cast_power, hnat, hsum, mul_assoc]
  have hpos : (2 : ℚ) ^ low ≠ 0 := zpow_ne_zero low (by norm_num)
  rw [hshift a he, hshift b he', mul_left_inj' hpos, Int.cast_inj]

theorem same_iff {x y : Binary64} : x.same y = true ↔ x.value = y.value := by
  cases x with
  | finite s m e =>
    cases y with
    | finite s' m' e' =>
      rw [same, beq_iff_eq, shifted_eq_iff (by omega) (by omega), value, value, Sum.inl.injEq]
    | infinite s' => simp [same, value]
  | infinite s =>
    cases y with
    | finite s' m' e' => simp [same, value]
    | infinite s' => simp [same, value]

theorem sameInt_iff {x : Binary64} {n : Int} : x.sameInt n = true ↔ x.value = .inl (n : ℚ) := by
  cases x with
  | infinite s => simp [sameInt, value]
  | finite s m e =>
    rw [sameInt, value, Sum.inl.injEq]
    -- The whole number has exponent zero, which is the smaller one in the first case.
    split
    · rename_i he
      have hshift := shifted_eq_iff (a := signed s m) (b := n) he (le_refl 0)
      simpa [power] using hshift
    · rename_i he
      have hzero : e ≤ 0 := by omega
      have hshift := shifted_eq_iff (a := signed s m) (b := n) (le_refl e) hzero
      simpa [power] using hshift

end Binary64

namespace RealNumber

def value : RealNumber → ℚ ⊕ Bool
  | .whole n => .inl n
  | .binary x => x.value

theorem same_iff {a b : RealNumber} : a.same b = true ↔ a.value = b.value := by
  cases a with
  | whole m =>
    cases b with
    | whole n => simp [same, value]
    | binary y => rw [same, Binary64.sameInt_iff, value, value, eq_comm]
  | binary x =>
    cases b with
    | whole n => rw [same, Binary64.sameInt_iff, value, value]
    | binary y => exact Binary64.same_iff

end RealNumber

namespace Constant

/-- What a constant is compared by: a number by its real and imaginary part, any other constant by
itself. -/
def value (c : Constant) : ((ℚ ⊕ Bool) × (ℚ ⊕ Bool)) ⊕ Constant :=
  match c.number? with
  | some (re, im) => .inl (re.value, im.value)
  | Option.none => .inr c

theorem same_iff {a b : Constant} : a.same b = true ↔ a.value = b.value := by
  rw [same, value, value]
  cases ha : a.number? with
  | none =>
    cases hb : b.number? with
    | none => simp
    | some y =>
      -- A constant that is no number differs from one that is.
      have hne : a ≠ b := by
        rintro rfl
        rw [ha] at hb
        contradiction
      simp [hne]
  | some x =>
    cases hb : b.number? with
    | none =>
      have hne : a ≠ b := by
        rintro rfl
        rw [ha] at hb
        contradiction
      simp [hne]
    | some y => simp [RealNumber.same_iff]

end Constant

namespace Key

mutual

theorem same_refl : (k : Key) → k.same k = true
  | .constant _ => Constant.same_iff.mpr rfl
  | .name _ => by simp [same]
  | .tuple ks => by
    rw [same]
    exact sameAll_refl ks

theorem sameAll_refl : (ks : List Key) → sameAll ks ks = true
  | [] => rfl
  | k :: ks => by rw [sameAll, same_refl k, sameAll_refl ks, Bool.and_self]

end

mutual

theorem same_symm : {k l : Key} → k.same l = true → l.same k = true
  | .constant a, .constant b, h => by
    rw [same, Constant.same_iff] at h ⊢
    exact h.symm
  | .name x, .name y, h => by
    rw [same, beq_iff_eq] at h ⊢
    exact h.symm
  | .tuple ks, .tuple ls, h => by
    rw [same] at h ⊢
    exact sameAll_symm h

theorem sameAll_symm : {ks ls : List Key} → sameAll ks ls = true → sameAll ls ks = true
  | [], [], _ => rfl
  | k :: ks, l :: ls, h => by
    rw [sameAll, Bool.and_eq_true] at h ⊢
    exact ⟨same_symm h.1, sameAll_symm h.2⟩

end

mutual

theorem same_trans : {k l m : Key} → k.same l = true → l.same m = true → k.same m = true
  | .constant a, .constant b, .constant c, hkl, hlm => by
    rw [same, Constant.same_iff] at hkl hlm ⊢
    exact hkl.trans hlm
  | .name x, .name y, .name z, hkl, hlm => by
    rw [same, beq_iff_eq] at hkl hlm ⊢
    exact hkl.trans hlm
  | .tuple ks, .tuple ls, .tuple ms, hkl, hlm => by
    rw [same] at hkl hlm ⊢
    exact sameAll_trans hkl hlm

theorem sameAll_trans :
    {ks ls ms : List Key} → sameAll ks ls = true → sameAll ls ms = true → sameAll ks ms = true
  | [], [], [], _, _ => rfl
  | k :: ks, l :: ls, m :: ms, hkl, hlm => by
    rw [sameAll, Bool.and_eq_true] at hkl hlm ⊢
    exact ⟨same_trans hkl.1 hlm.1, sameAll_trans hkl.2 hlm.2⟩

end

/-- Keys that are the same are the same as the same keys. -/
theorem same_congr {k l : Key} (h : k.same l = true) (m : Key) : k.same m = l.same m := by
  rw [Bool.eq_iff_iff]
  exact ⟨same_trans (same_symm h), same_trans h⟩

end Key

end Pruner
