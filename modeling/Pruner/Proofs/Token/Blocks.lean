import Pruner.Proofs.Token.Invariant
import Mathlib.Data.List.Chain

namespace Pruner.Token

open Pruner.Text

/-- Two tokens that may stand side by side: a block that opens does not close again at once. -/
def Neighbours (t next : Token) : Prop :=
  t.kind = .indent → isLayout next.kind = false

theorem isChain_append_of_no_indent {tokens later : List Token}
    (h : ∀ t ∈ tokens, t.kind ≠ .indent) (hlater : later.IsChain Neighbours) :
    (tokens ++ later).IsChain Neighbours := by
  induction tokens with
  | nil => exact hlater
  | cons t tokens ih =>
    refine List.isChain_cons.mpr ⟨fun _ _ hkind => absurd hkind (h t (by simp)), ih ?_⟩
    exact fun x hx => h x (by simp [hx])

theorem isChain_of_no_indent {tokens : List Token} (h : ∀ t ∈ tokens, t.kind ≠ .indent) :
    tokens.IsChain Neighbours := by
  simpa using isChain_append_of_no_indent h List.isChain_nil

theorem newlineRun_head {c : Char} {cs : Text} (h : newlineRun (c :: cs) ≠ 0) :
    c = '\r' ∨ c = '\n' := by
  unfold newlineRun at h
  split at h
  · rename_i heq
    exact Or.inr (List.cons.inj heq).1
  · rename_i heq
    exact Or.inl (List.cons.inj heq).1
  · simp at h

/-- Where a statement starts, the reader makes a token of it or starts to hold a string. -/
theorem move_of_statement (depth : Int) {c : Char} {cs : Text} (hblank : isInnerBlank c = false)
    (hc : c ≠ '#' ∧ c ≠ '\r' ∧ c ≠ '\n') (hslash : c ≠ '\\') :
    (∃ kind text depth' n, move depth c cs = .emit kind text depth' n ∧ isFiller kind = false) ∨
      ∃ text triple quote, move depth c cs = .hold text triple quote := by
  have hbody : (c :: cs).drop ((c :: cs).takeWhile isInnerBlank).length = c :: cs := by
    simp [hblank]
  rw [move, hbody]
  cases hshape : shape? (c :: cs) with
  | none => exact Or.inl ⟨_, _, _, _, rfl, rfl⟩
  | some found =>
    obtain ⟨shape, n⟩ := found
    have hcases := shape?_cases hshape
    cases shape with
    | finish => simp at hcases
    | joiner => simp [hslash] at hcases
    | comment => simp [hc.1] at hcases
    | newline =>
      obtain ⟨hrun, hpos⟩ : n = newlineRun (c :: cs) ∧ n ≠ 0 := by simpa using hcases
      rcases newlineRun_head (hrun ▸ hpos) with hr | hn
      · exact absurd hr hc.2.1
      · exact absurd hn hc.2.2
    | unclosed quote => exact Or.inr ⟨_, _, _, rfl⟩
    | tripleQuote quote =>
      dsimp only
      cases closingRun true quote ((c :: cs).drop n) with
      | none => exact Or.inr ⟨_, _, _, rfl⟩
      | some k => exact Or.inl ⟨_, _, _, _, rfl, rfl⟩
    | word =>
      refine Or.inl ⟨_, _, _, _, rfl, ?_⟩
      rw [wordKind]
      split <;> rfl
    | _ => exact Or.inl ⟨_, _, _, _, rfl, rfl⟩

/-- The first token of a statement is none that could be left out, unless it is a string that goes
on on the next line. -/
theorem scanLine_statement (row : Nat) {line : Text} (depth : Int) (h : HasStatement line)
    (hslash : '\\' ∉ line) :
    significant (scanLine row line 0 depth (content line)).1 ≠ [] ∨
      (scanLine row line 0 depth (content line)).2.pending.isSome = true := by
  obtain ⟨c, hc, hhead⟩ := h
  obtain ⟨cs, hbody⟩ := List.head?_eq_some_iff.mp hc
  have hblank : isInnerBlank c = false := by
    have hfirst := List.head?_dropWhile_not isInnerBlank line
    rwa [← content, hbody] at hfirst
  have hne : c ≠ '\\' := by
    rintro rfl
    exact hslash ((List.dropWhile_sublist _).subset (by rw [← content, hbody]; simp))
  rw [hbody, scanLine_cons]
  rcases move_of_statement depth hblank hhead hne with
    ⟨kind, text, depth', n, hmove, hkind⟩ | ⟨text, triple, quote, hmove⟩
  · rw [hmove]
    refine Or.inl ?_
    simp [significant, hkind]
  · rw [hmove]
    exact Or.inr rfl

theorem scanLine_no_indent {row : Nat} {line : Text} (depth : Int) (text : Text) :
    ∀ t ∈ (scanLine row line 0 depth text).1, t.kind ≠ .indent := by
  intro t ht heq
  have := (scanLine_tokens depth text t ht).2.2
  simp [heq, isLayout] at this

/-- A line inside a string gives the string first, if it does not go on. -/
theorem step_in_string {s next : State} {row : Nat} {line : Text} {tokens : List Token}
    (hpending : s.pending.isSome = true) (h : step s row line = .more tokens next) :
    tokens = [] ∧ next.pending.isSome = true ∨
      ∃ t others, tokens = t :: others ∧ (t.kind = .string ∨ t.kind = .junk) ∧
        ∀ x ∈ others, x.kind ≠ .indent := by
  rcases step_cases h with ⟨o, -, h⟩ | ⟨hnone, -⟩ | ⟨hnone, -⟩
  · rcases scanInString_cases h with ⟨n, -, rfl, -⟩ | ⟨rfl, -⟩ | ⟨rfl, rfl⟩
    · exact Or.inr ⟨_, _, rfl, Or.inl rfl, scanLine_no_indent _ _⟩
    · exact Or.inr ⟨_, _, rfl, Or.inr rfl, by simp⟩
    · exact Or.inl ⟨rfl, rfl⟩
  · simp [hnone] at hpending
  · simp [hnone] at hpending

/-- On a line only the first token can open a block. If it is the only one of the line, a string is
still open. -/
theorem step_indent {s next : State} {row : Nat} {line : Text} {tokens : List Token}
    (hslash : '\\' ∉ line) (h : step s row line = .more tokens next) :
    (∀ t ∈ significant tokens, t.kind ≠ .indent) ∨
    ∃ t others, significant tokens = t :: others ∧ (∀ x ∈ others, isLayout x.kind = false) ∧
      (others = [] → next.pending.isSome = true) := by
  have hkept {ts : List Token} (hts : ∀ t ∈ ts, t.kind ≠ .indent) :
      ∀ t ∈ significant ts, t.kind ≠ .indent :=
    fun t ht => hts t (List.mem_filter.mp ht).1
  rcases step_cases h with ⟨o, ho, -⟩ | ⟨-, -, h⟩ | ⟨-, -, rfl, -⟩
  · refine Or.inl (hkept ?_)
    rcases step_in_string (by simp [ho]) h with ⟨rfl, -⟩ | ⟨t, others, rfl, hkind, hothers⟩
    · simp
    · rw [List.forall_mem_cons]
      refine ⟨?_, hothers⟩
      rcases hkind with hkind | hkind <;> simp [hkind]
  · rcases scanStatement_cases s row line with
      ⟨-, hstop⟩ | ⟨-, -, filler, hmore, hfill⟩ | ⟨hstatement, hmore⟩
    · simp [hstop] at h
    · obtain ⟨rfl, -⟩ := LineResult.more.inj (hmore.symm.trans h)
      refine Or.inl (hkept fun t ht heq => ?_)
      have := (hfill t ht).1
      simp [heq, isFiller] at this
    · rw [hmore] at h
      split at h
      · simp at h
      · obtain ⟨rfl, rfl⟩ := LineResult.more.inj h
        rw [blockTokens]
        split
        · refine Or.inr ⟨_, _, rfl, fun x hx => ?_, fun hnil => ?_⟩
          · exact (scanLine_tokens s.depth (content line) x (List.mem_filter.mp hx).1).2.2
          · exact (scanLine_statement row s.depth hstatement hslash).resolve_left (· hnil)
        · refine Or.inl (hkept fun t ht => ?_)
          rcases List.mem_append.mp ht with ht | ht
          · simp [List.eq_of_mem_replicate ht]
          · exact scanLine_no_indent _ _ t ht
  · exact Or.inl (hkept (scanLine_no_indent _ _))

/-- No block opens and closes again at once, and a string that is open before the lines is their
first token. -/
theorem scanLines_neighbours {s : State} {row : Nat} {last : Text} {ls : List Text} (hs : Sane s)
    (hslash : ∀ l ∈ ls, '\\' ∉ l) (hread : (scanLines s row last ls).error = none) :
    (significant (scanLines s row last ls).tokens).IsChain Neighbours ∧
    (s.pending.isSome = true →
      ∀ t ∈ (significant (scanLines s row last ls).tokens).head?, isLayout t.kind = false) := by
  have hfinish (s : State) (row : Nat) (last : Text) :
      (significant (finish s row last)).IsChain Neighbours := by
    refine isChain_of_no_indent fun t ht heq => ?_
    have := finish_kinds (List.mem_filter.mp ht).1
    simp [heq] at this
  induction ls generalizing s row last with
  | nil =>
    rw [scanLines] at hread ⊢
    split at hread
    · simp at hread
    · rename_i hnone
      split at hread
      · rename_i hdone
        rw [if_neg hnone, if_pos hdone]
        exact ⟨hfinish s row last, fun hpending => absurd hpending hnone⟩
      · simp at hread
  | cons line rest ih =>
    rw [scanLines] at hread ⊢
    cases hstep : step s row line with
    | fail error => simp [hstep] at hread
    | stop => exact ⟨hfinish s row last, by simp [(step_stop hstep).1]⟩
    | more tokens next =>
      rw [hstep] at hread
      have hline := hslash line (by simp)
      obtain ⟨hchain, hfirst⟩ := ih (hs.step hline hstep) (fun l hl => hslash l (by simp [hl])) hread
      dsimp only
      rw [significant_append]
      constructor
      · rcases step_indent hline hstep with hnone | ⟨t, others, htokens, hothers, hlast⟩
        · exact isChain_append_of_no_indent hnone hchain
        · rw [htokens, List.cons_append, List.isChain_cons]
          constructor
          · intro y hy _
            cases others with
            | nil => exact hfirst (hlast rfl) y hy
            | cons x others =>
              obtain rfl : x = y := by simpa using hy
              exact hothers x (by simp)
          · refine isChain_append_of_no_indent (fun x hx heq => ?_) hchain
            have := hothers x hx
            simp [heq, isLayout] at this
      · intro hpending
        rcases step_in_string hpending hstep with ⟨rfl, hnext⟩ | ⟨t, others, rfl, hkind, -⟩
        · exact hfirst hnext
        · rcases hkind with hkind | hkind <;> simp [significant, hkind, isFiller, isLayout]

end Pruner.Token
