import Pruner.Proofs.Key.Equality

namespace Pruner

/-- What a key is compared by. -/
inductive KeyValue
  /-- The real and imaginary part of a number, or a constant that is no number. -/
  | constant (value : ((ℚ ⊕ Bool) × (ℚ ⊕ Bool)) ⊕ Constant)
  | name (id : String)
  | tuple (items : List KeyValue)

namespace Key

mutual

/-- The value that a key stands for. -/
def value : Key → KeyValue
  | .constant c => .constant c.value
  | .name id => .name id
  | .tuple items => .tuple (values items)

def values : List Key → List KeyValue
  | [] => []
  | k :: ks => value k :: values ks

end

mutual

theorem same_iff : (k l : Key) → (k.same l = true ↔ k.value = l.value)
  | .constant a, .constant b => by
    rw [same, Constant.same_iff, value, value, KeyValue.constant.injEq]
  | .name x, .name y => by
    rw [same, beq_iff_eq, value, value, KeyValue.name.injEq]
  | .tuple ks, .tuple ls => by
    rw [same, sameAll_iff ks ls, value, value, KeyValue.tuple.injEq]
  | .constant _, .name _ => by simp [same, value]
  | .constant _, .tuple _ => by simp [same, value]
  | .name _, .constant _ => by simp [same, value]
  | .name _, .tuple _ => by simp [same, value]
  | .tuple _, .constant _ => by simp [same, value]
  | .tuple _, .name _ => by simp [same, value]

theorem sameAll_iff : (ks ls : List Key) → (sameAll ks ls = true ↔ values ks = values ls)
  | [], [] => by simp [sameAll]
  | [], _ :: _ => by simp [sameAll, values]
  | _ :: _, [] => by simp [sameAll, values]
  | k :: ks, l :: ls => by
    rw [sameAll, Bool.and_eq_true, same_iff k l, sameAll_iff ks ls, values, values,
      List.cons.injEq]

end

end Key

namespace Value

mutual

/-- A literal that equals a key equals the keys that are the same. -/
theorem isKey_of_same :
    {v : Value} → {k l : Key} → v.isKey k = true → k.same l = true → v.isKey l = true
  | .constant a, .constant b, .constant c, hv, hsame => by
    rw [isKey, Constant.same_iff] at hv ⊢
    rw [Key.same, Constant.same_iff] at hsame
    exact hv.trans hsame
  | .tuple vs, .tuple ks, .tuple ls, hv, hsame => by
    rw [isKey] at hv ⊢
    rw [Key.same] at hsame
    exact areKeys_of_sameAll hv hsame

theorem areKeys_of_sameAll : {vs : List Value} → {ks ls : List Key} →
    areKeys vs ks = true → Key.sameAll ks ls = true → areKeys vs ls = true
  | [], [], [], _, _ => rfl
  | v :: vs, k :: ks, l :: ls, hvs, hsame => by
    rw [areKeys, Bool.and_eq_true] at hvs ⊢
    rw [Key.sameAll, Bool.and_eq_true] at hsame
    exact ⟨isKey_of_same hvs.1 hsame.1, areKeys_of_sameAll hvs.2 hsame.2⟩

end

end Value

end Pruner
