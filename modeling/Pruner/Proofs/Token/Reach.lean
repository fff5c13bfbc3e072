import Pruner.Token.Scan
import Mathlib.Data.List.Basic

namespace Pruner.Token

open Pruner.Text

/-- The tokens of some lines and the state after them; none if reading ends before. -/
def reach (state : State) (row : Nat) : List Text → Option (List Token × State)
  | [] => some ([], state)
  | line :: rest =>
    match step state row line with
    | .more tokens next =>
      (reach next (row + 1) rest).map fun (others, last) => (tokens ++ others, last)
    | _ => none

/-- Line `i`, counted from zero, starts inside a bracket that an earlier line opened. -/
def InBracket (source : Text) (i : Nat) : Prop :=
  ∃ tokens state, reach {} 1 ((lines source).take i) = some (tokens, state) ∧ 0 < state.depth

theorem reach_append_singleton {s s' next : State} {row : Nat} {done : List Text} {line : Text}
    {tokens more : List Token} (h : reach s row done = some (tokens, s'))
    (hstep : step s' (row + done.length) line = .more more next) :
    reach s row (done ++ [line]) = some (tokens ++ more, next) := by
  induction done generalizing s row tokens with
  | nil =>
    obtain ⟨rfl, rfl⟩ := Prod.mk.inj (Option.some.inj h)
    rw [List.nil_append, reach, show step s row line = .more more next from hstep]
    simp [reach]
  | cons first rest ih =>
    rw [reach] at h
    rw [List.cons_append, reach]
    split at h
    · rename_i firstTokens firstNext hfirst
      obtain ⟨⟨others, last⟩, hothers, heq⟩ := Option.map_eq_some_iff.mp h
      obtain ⟨rfl, rfl⟩ := Prod.mk.inj heq
      rw [List.length_cons, ← Nat.add_assoc, Nat.add_right_comm] at hstep
      rw [ih hothers hstep]
      simp
    · simp at h

/-- Reading a text goes on from the state that its first lines lead to. -/
theorem scanLines_of_reach {s s' : State} {row : Nat} {done : List Text} {tokens : List Token}
    (h : reach s row done = some (tokens, s')) (last : Text) (rest : List Text) :
    scanLines s row last (done ++ rest) =
      ⟨tokens ++ (scanLines s' (row + done.length) (done.getLastD last) rest).tokens,
        (scanLines s' (row + done.length) (done.getLastD last) rest).error⟩ := by
  induction done generalizing s row tokens last with
  | nil =>
    obtain ⟨rfl, rfl⟩ := Prod.mk.inj (Option.some.inj h)
    rfl
  | cons line done ih =>
    rw [reach] at h
    split at h
    · rename_i first next hstep
      obtain ⟨⟨others, s''⟩, hothers, heq⟩ := Option.map_eq_some_iff.mp h
      obtain ⟨rfl, rfl⟩ := Prod.mk.inj heq
      rw [List.cons_append, scanLines, hstep]
      dsimp only
      rw [ih hothers line, List.length_cons, List.getLastD_cons, ← Nat.add_assoc,
        Nat.add_right_comm row, List.append_assoc]
    · simp at h

theorem append_eq_append_cons {α : Type} {a b before after : List α} {x : α}
    (h : a ++ b = before ++ x :: after) :
    (∃ post, a = before ++ x :: post ∧ after = post ++ b) ∨
      ∃ pre, before = a ++ pre ∧ b = pre ++ x :: after := by
  rcases List.append_eq_append_iff.mp h with ⟨pre, hpre, hb⟩ | ⟨post, ha, hpost⟩
  · exact Or.inr ⟨pre, hpre, hb⟩
  · cases post with
    | nil =>
      refine Or.inr ⟨[], ?_, ?_⟩
      · simpa using ha.symm
      · simpa using hpost.symm
    | cons y post =>
      obtain ⟨rfl, rfl⟩ := List.cons.inj hpost
      exact Or.inl ⟨post, ha, rfl⟩

/-- At the end of a text only statements and blocks are closed. -/
theorem finish_kinds {s : State} {row : Nat} {last : Text} {t : Token}
    (h : t ∈ finish s row last) :
    t.kind = .newline ∨ t.kind = .dedent ∨ t.kind = .endMarker := by
  rw [finish, List.mem_append, List.mem_append, List.mem_replicate, List.mem_singleton] at h
  rcases h with (h | ⟨-, rfl⟩) | rfl
  · split at h
    · split at h
      · simp at h
      · rw [List.mem_singleton.mp h]
        exact Or.inl rfl
    · simp at h
  · exact Or.inr (Or.inl rfl)
  · exact Or.inr (Or.inr rfl)

/-- Where a token comes from: the line whose reading gives it, or the end of the text. -/
theorem token_origin {s : State} {row : Nat} {last : Text} {ls : List Text} {t : Token}
    {before after : List Token} (h : (scanLines s row last ls).tokens = before ++ t :: after)
    (hkind : t.kind ≠ .newline ∧ t.kind ≠ .dedent ∧ t.kind ≠ .endMarker) :
    ∃ done line rest tokens s' pre post next, ls = done ++ line :: rest ∧
      reach s row done = some (tokens, s') ∧
      step s' (row + done.length) line = .more (pre ++ t :: post) next ∧
      before = tokens ++ pre ∧
      after = post ++ (scanLines next (row + done.length + 1) line rest).tokens := by
  have hfinish : ∀ s row last before after, finish s row last ≠ before ++ t :: after := by
    intro s row last before after heq
    have hend := finish_kinds (t := t) (by rw [heq]; simp)
    tauto
  induction ls generalizing s row last before with
  | nil =>
    rw [scanLines] at h
    split at h
    · simp at h
    · split at h
      · exact absurd h (hfinish _ _ _ _ _)
      · simp at h
  | cons line rest ih =>
    rw [scanLines] at h
    split at h
    · simp at h
    · exact absurd h (hfinish _ _ _ _ _)
    · rename_i tokens next hstep
      rcases append_eq_append_cons h with ⟨post, rfl, hafter⟩ | ⟨pre, rfl, hlater⟩
      · exact ⟨[], line, rest, [], s, before, post, next, rfl, rfl, hstep, rfl, hafter⟩
      · obtain ⟨done, line', rest', tokens', s', pre', post, next', rfl, hreach, hstep', rfl,
          hafter⟩ := ih hlater
        refine ⟨line :: done, line', rest', tokens ++ tokens', s', pre', post, next', rfl, ?_, ?_,
          by simp, ?_⟩
        · rw [reach, hstep]
          simp [hreach]
        · rwa [List.length_cons, ← Nat.add_assoc, Nat.add_right_comm]
        · rwa [List.length_cons, ← Nat.add_assoc, Nat.add_right_comm row]

end Pruner.Token
