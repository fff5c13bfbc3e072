import Mathlib.Data.List.Forall2
import Pruner.Fault

namespace Pruner.Literal

open Pruner.Syntax

/-- A literal that can be the element of a set. -/
def IsElement (e : Expr) : Prop :=
  ∃ v, eval e = .ok v ∧ v.unhashable? = none

/-- A dictionary entry with a key and a value that are literals. -/
def IsEntry (key : Option Expr) (value : Expr) : Prop :=
  ∃ k, key = some k ∧ IsElement k ∧ ∃ v, eval value = .ok v

/-- The evaluation of an expression comes to one of its parts. -/
inductive Reaches : Expr → Expr → Prop
  | tuple {line : Nat} {before after : List Expr} {e : Expr}
      (literals : ∀ x ∈ before, ∃ v, eval x = .ok v) : Reaches (.tuple line (before ++ e :: after)) e
  | list {before after : List Expr} {e : Expr} (literals : ∀ x ∈ before, ∃ v, eval x = .ok v) :
      Reaches (.list (before ++ e :: after)) e
  | set {before after : List Expr} {e : Expr} (elements : ∀ x ∈ before, IsElement x) :
      Reaches (.set (before ++ e :: after)) e
  | key {keys keys' : List (Option Expr)} {values values' : List Expr} {k v : Expr}
      (entries : List.Forall₂ IsEntry keys values) :
      Reaches (.dict (keys ++ some k :: keys') (values ++ v :: values')) k
  | value {keys keys' : List (Option Expr)} {values values' : List Expr} {k v : Expr} {key : Value}
      (entries : List.Forall₂ IsEntry keys values) (is_key : eval k = .ok key) :
      Reaches (.dict (keys ++ some k :: keys') (values ++ v :: values')) v

/-- The values of all parts that are evaluated exist, but cannot be put together. -/
inductive Clashes : Expr → LiteralError → Prop
  | element {before after : List Expr} {e : Expr} {v : Value} {kind : Container}
      (elements : ∀ x ∈ before, IsElement x) (is_value : eval e = .ok v)
      (unhashable : v.unhashable? = some kind) :
      Clashes (.set (before ++ e :: after)) (.unhashable kind)
  | key {keys keys' : List (Option Expr)} {values values' : List Expr} {k v : Expr}
      {key value : Value} {kind : Container} (entries : List.Forall₂ IsEntry keys values)
      (is_key : eval k = .ok key) (is_value : eval v = .ok value)
      (unhashable : key.unhashable? = some kind) :
      Clashes (.dict (keys ++ some k :: keys') (values ++ v :: values')) (.unhashable kind)
  | sum {left right : Expr} {op : BinaryOp} {n : Int} {re im : Binary64} {negative : Bool}
      (is_sum : op ≠ .other) (whole : signedNumber? left = some (.int n))
      (imaginary : number? right = some (.complex re im))
      (large : Binary64.ofDecimal n.natAbs 0 = .infinite negative) :
      Clashes (.binary left op right) .overflow

/-- Somewhere in the expression, and before anything that is no literal, values clash. -/
inductive Breaks : Expr → LiteralError → Prop
  | here {e : Expr} {err : LiteralError} (clash : Clashes e err) : Breaks e err
  | inside {e part : Expr} {err : LiteralError} (reaches : Reaches e part)
      (breaks : Breaks part err) : Breaks e err

section Lists

variable {before rest : List Expr} {err : LiteralError}

theorem values_of_literals (h : ∀ x ∈ before, ∃ v, eval x = .ok v)
    (hrest : values (evalAll rest) = .error err) : values (evalAll (before ++ rest)) = .error err := by
  induction before with
  | nil => exact hrest
  | cons x xs ih =>
    obtain ⟨v, hv⟩ := h x (by simp)
    have htail := ih fun y hy => h y (List.mem_cons_of_mem x hy)
    rw [values] at htail ⊢
    rw [List.cons_append, evalAll, List.mapM_cons, hv, htail]
    rfl

/-- The first part without a value decides. -/
theorem exists_of_values_error {items : List Expr} (h : values (evalAll items) = .error err) :
    ∃ before e after, items = before ++ e :: after ∧ (∀ x ∈ before, ∃ v, eval x = .ok v) ∧
      eval e = .error err := by
  induction items with
  | nil => contradiction
  | cons x xs ih =>
    rw [values, evalAll, List.mapM_cons] at h
    cases hx : eval x with
    | error err' =>
      rw [hx] at h
      obtain rfl : err' = err := Except.error.inj h
      exact ⟨[], x, xs, rfl, by simp, hx⟩
    | ok v =>
      have htail : values (evalAll xs) = .error err := by
        rw [values]
        cases htail : (evalAll xs).mapM id with
        | error err' =>
          rw [hx, htail] at h
          exact congrArg Except.error (Except.error.inj h)
        | ok vs =>
          rw [hx, htail] at h
          contradiction
      obtain ⟨before, e, after, rfl, hbefore, he⟩ := ih htail
      exact ⟨x :: before, e, after, rfl, List.forall_mem_cons.mpr ⟨⟨v, hx⟩, hbefore⟩, he⟩

theorem elements_ok (v : Value) (rs : List Result) :
    elements (.ok v :: rs) = v.unhashable?.elim (elements rs) (.error <| .unhashable ·) := by
  rw [elements]
  dsimp only [bind, Except.bind]
  cases v.unhashable? <;> rfl

theorem entries_ok (k v : Value) (ks vs : List Result) :
    entries (.ok k :: ks) (.ok v :: vs) =
      k.unhashable?.elim (entries ks vs) (.error <| .unhashable ·) := by
  rw [entries]
  dsimp only [bind, Except.bind]
  cases k.unhashable? <;> rfl

theorem elements_of_elements (h : ∀ x ∈ before, IsElement x) :
    elements (evalAll (before ++ rest)) = elements (evalAll rest) := by
  induction before with
  | nil => rfl
  | cons x xs ih =>
    obtain ⟨v, hv, hhash⟩ := h x (by simp)
    rw [← ih fun y hy => h y (List.mem_cons_of_mem x hy), List.cons_append, evalAll, hv,
      elements_ok, hhash]
    rfl

/-- The first part that cannot be an element decides. -/
theorem exists_of_elements_error {items : List Expr} (h : elements (evalAll items) = .error err) :
    ∃ before e after, items = before ++ e :: after ∧ (∀ x ∈ before, IsElement x) ∧
      (eval e = .error err ∨
        ∃ v kind, eval e = .ok v ∧ v.unhashable? = some kind ∧ err = .unhashable kind) := by
  induction items with
  | nil => contradiction
  | cons x xs ih =>
    rw [evalAll] at h
    cases hx : eval x with
    | error err' =>
      rw [hx] at h
      obtain rfl : err' = err := Except.error.inj h
      exact ⟨[], x, xs, rfl, by simp, Or.inl hx⟩
    | ok v =>
      rw [hx, elements_ok] at h
      cases hhash : v.unhashable? with
      | some kind =>
        rw [hhash] at h
        exact ⟨[], x, xs, rfl, by simp, Or.inr ⟨v, kind, hx, hhash, (Except.error.inj h).symm⟩⟩
      | none =>
        rw [hhash] at h
        obtain ⟨before, e, after, rfl, hbefore, he⟩ := ih h
        exact ⟨x :: before, e, after, rfl, List.forall_mem_cons.mpr ⟨⟨v, hx, hhash⟩, hbefore⟩, he⟩

theorem entries_of_entries {keys keys' : List (Option Expr)} {vals vals' : List Expr}
    (h : List.Forall₂ IsEntry keys vals) :
    entries (evalKeys (keys ++ keys')) (evalAll (vals ++ vals')) =
      entries (evalKeys keys') (evalAll vals') := by
  induction h with
  | nil => rfl
  | @cons key val keys vals hentry _ ih =>
    obtain ⟨k, rfl, ⟨v, hv, hhash⟩, w, hw⟩ := hentry
    rw [List.cons_append, List.cons_append, evalKeys, evalAll, hv, hw, entries_ok, hhash]
    exact ih

/-- The first entry that a dictionary cannot have decides: by its key, by its value, or because the
key cannot be hashed. -/
theorem exists_of_entries_error {keys : List (Option Expr)} {vals : List Expr}
    (h : entries (evalKeys keys) (evalAll vals) = .error err) (herr : err ≠ .malformed) :
    ∃ ks k ks' vs v vs', keys = ks ++ some k :: ks' ∧ vals = vs ++ v :: vs' ∧
      List.Forall₂ IsEntry ks vs ∧
      (eval k = .error err ∨ ∃ key, eval k = .ok key ∧ (eval v = .error err ∨
        ∃ value kind, eval v = .ok value ∧ key.unhashable? = some kind ∧ err = .unhashable kind)) := by
  induction keys generalizing vals with
  | nil => contradiction
  | cons key keys ih =>
    cases vals with
    | nil => cases key <;> contradiction
    | cons v vals =>
      cases key with
      | none =>
        rw [evalKeys, evalAll, entries] at h
        exact absurd (Except.error.inj h).symm herr
      | some k =>
        rw [evalKeys, evalAll] at h
        cases hk : eval k with
        | error err' =>
          rw [hk] at h
          obtain rfl : err' = err := Except.error.inj h
          exact ⟨[], k, keys, [], v, vals, rfl, rfl, .nil, Or.inl hk⟩
        | ok key =>
          rw [hk] at h
          cases hv : eval v with
          | error err' =>
            rw [hv] at h
            obtain rfl : err' = err := Except.error.inj h
            exact ⟨[], k, keys, [], v, vals, rfl, rfl, .nil, Or.inr ⟨key, hk, Or.inl hv⟩⟩
          | ok value =>
            rw [hv, entries_ok] at h
            cases hhash : key.unhashable? with
            | some kind =>
              rw [hhash] at h
              exact ⟨[], k, keys, [], v, vals, rfl, rfl, .nil,
                Or.inr ⟨key, hk, Or.inr ⟨value, kind, hv, hhash, (Except.error.inj h).symm⟩⟩⟩
            | none =>
              rw [hhash] at h
              obtain ⟨ks, k', ks', vs, v', vs', rfl, rfl, hentries, hfail⟩ := ih h
              exact ⟨some k :: ks, k', ks', v :: vs, v', vs', rfl, rfl,
                .cons ⟨k, rfl, ⟨key, hk, hhash⟩, value, hv⟩ hentries, hfail⟩

end Lists

section Evaluation

variable {e part : Expr} {err : LiteralError}

theorem values_cons_error {rest : List Expr} (h : eval part = .error err) :
    values (evalAll (part :: rest)) = .error err := by
  rw [values, evalAll, List.mapM_cons, h]
  rfl

/-- What goes wrong in a part goes wrong in the whole. -/
theorem Reaches.eval_eq_error (h : Reaches e part) (hpart : eval part = .error err) :
    eval e = .error err := by
  cases h with
  | tuple literals =>
    rw [eval, values_of_literals literals (values_cons_error hpart)]
    rfl
  | list literals =>
    rw [eval, values_of_literals literals (values_cons_error hpart)]
    rfl
  | set hbefore =>
    rw [eval, elements_of_elements hbefore, evalAll, hpart]
    rfl
  | key hbefore =>
    rw [eval, entries_of_entries hbefore, evalKeys, evalAll, hpart]
    rfl
  | value hbefore is_key =>
    rw [eval, entries_of_entries hbefore, evalKeys, evalAll, hpart, is_key]
    rfl

theorem Clashes.eval_eq_error (h : Clashes e err) : eval e = .error err := by
  cases h with
  | element hbefore is_value unhashable =>
    rw [eval, elements_of_elements hbefore, evalAll, is_value, elements_ok, unhashable]
    rfl
  | key hbefore is_key is_value unhashable =>
    rw [eval, entries_of_entries hbefore, evalKeys, evalAll, is_key, is_value, entries_ok, unhashable]
    rfl
  | @sum left right op n re im negative is_sum whole imaginary large =>
    rw [eval, complexSum.eq_def, whole, imaginary]
    cases op with
    | other => contradiction
    | add => simp [toBinary?, large]
    | sub => simp [toBinary?, large]

theorem Reaches.sizeOf_lt (h : Reaches e part) : sizeOf part < sizeOf e := by
  have hmem (before after : List Expr) : sizeOf part < sizeOf (before ++ part :: after) :=
    List.sizeOf_lt_of_mem (by simp)
  cases h with
  | @tuple line before after =>
    have hpart := hmem before after
    rw [Expr.tuple.sizeOf_spec]
    omega
  | @list before after =>
    have hpart := hmem before after
    rw [Expr.list.sizeOf_spec]
    omega
  | @set before after =>
    have hpart := hmem before after
    rw [Expr.set.sizeOf_spec]
    omega
  | @key keys keys' values values' =>
    have hkey : sizeOf (some part) < sizeOf (keys ++ some part :: keys') :=
      List.sizeOf_lt_of_mem (by simp)
    rw [Option.some.sizeOf_spec] at hkey
    rw [Expr.dict.sizeOf_spec]
    omega
  | @value keys keys' values values' =>
    have hpart := hmem values values'
    rw [Expr.dict.sizeOf_spec]
    omega

/-- Only a whole number can be too large. -/
theorem toBinary?_eq_error {a : Constant} (h : toBinary? a = some (.error err)) :
    ∃ n negative, a = .int n ∧ Binary64.ofDecimal n.natAbs 0 = .infinite negative ∧
      err = .overflow := by
  rw [toBinary?.eq_def] at h
  split at h
  · rename_i n
    split at h
    · rename_i negative hlarge
      exact ⟨n, negative, rfl, hlarge, (Except.error.inj (Option.some.inj h)).symm⟩
    · cases Option.some.inj h
  · cases Option.some.inj h
  · contradiction

/-- A sum without a value has a number that is too large. -/
theorem clashes_of_complexSum {left right : Expr} {op : BinaryOp}
    (h : complexSum left op right = .error err) (herr : err ≠ .malformed) :
    Clashes (.binary left op right) err := by
  rw [complexSum.eq_def] at h
  split at h
  · exact absurd (Except.error.inj h).symm herr
  · rename_i a re im hop hleft hright
    split at h
    · contradiction
    · rename_i e htoo
      obtain rfl := Except.error.inj h
      obtain ⟨n, negative, rfl, hlarge, rfl⟩ := toBinary?_eq_error htoo
      exact .sum hop hleft hright hlarge
    · exact absurd (Except.error.inj h).symm herr
  · exact absurd (Except.error.inj h).symm herr

/-- A value that does not exist although its expression looks like a literal is missing because of a
part, or because the parts clash. -/
theorem reaches_or_clashes (h : eval e = .error err) (herr : err ≠ .malformed) :
    (∃ part, Reaches e part ∧ eval part = .error err) ∨ Clashes e err := by
  have hmap {α : Type} {x : Except LiteralError α} {f : α → Value} (h : x.map f = .error err) :
      x = .error err := by
    cases x with
    | error e => exact congrArg Except.error (Except.error.inj h)
    | ok a => contradiction
  rw [eval.eq_def] at h
  split at h
  · contradiction
  · rename_i line items
    obtain ⟨before, part, after, rfl, hbefore, hpart⟩ := exists_of_values_error (hmap h)
    exact Or.inl ⟨part, .tuple hbefore, hpart⟩
  · rename_i items
    obtain ⟨before, part, after, rfl, hbefore, hpart⟩ := exists_of_values_error (hmap h)
    exact Or.inl ⟨part, .list hbefore, hpart⟩
  · rename_i items
    obtain ⟨before, part, after, rfl, hbefore, hpart | ⟨v, kind, hv, hhash, rfl⟩⟩ :=
      exists_of_elements_error (hmap h)
    · exact Or.inl ⟨part, .set hbefore, hpart⟩
    · exact Or.inr (.element hbefore hv hhash)
  · rename_i keys vals
    obtain ⟨ks, k, ks', vs, v, vs', rfl, rfl, hbefore, hpart | ⟨key, hk, hpart | ⟨value, kind, hv, hhash,
      rfl⟩⟩⟩ := exists_of_entries_error (hmap h) herr
    · exact Or.inl ⟨k, .key hbefore, hpart⟩
    · exact Or.inl ⟨v, .value hbefore hk, hpart⟩
    · exact Or.inr (.key hbefore hk hv hhash)
  · contradiction
  · exact Or.inr (clashes_of_complexSum h herr)
  · split at h
    · contradiction
    · exact absurd (Except.error.inj h).symm herr

/-- Evaluation fails for another reason than the form exactly if values clash. -/
theorem eval_eq_error_iff (herr : err ≠ .malformed) : eval e = .error err ↔ Breaks e err := by
  constructor
  · intro h
    induction hsize : sizeOf e using Nat.strongRecOn generalizing e with
    | _ size ih =>
      rcases reaches_or_clashes h herr with ⟨part, hreaches, hpart⟩ | hclash
      · exact .inside hreaches (ih _ (hsize ▸ hreaches.sizeOf_lt) hpart rfl)
      · exact .here hclash
  · intro h
    induction h with
    | here clash => exact clash.eval_eq_error
    | inside reaches _ ih => exact reaches.eval_eq_error (ih herr)

end Evaluation

end Pruner.Literal
