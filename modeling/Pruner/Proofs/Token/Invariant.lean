import Pruner.Proofs.Token.Statement

namespace Pruner.Token

open Pruner.Text

/-- The state of a reader that has met no backslash. -/
structure Sane (s : State) : Prop where
  joined : s.joined = false
  columns : s.columns ≠ []
  quote : ∀ o ∈ s.pending, isQuote o.quote = true

theorem sane_initial : Sane {} :=
  ⟨rfl, by simp, by simp⟩

/-- The three ways to read a line. -/
theorem step_cases {s next : State} {row : Nat} {line : Text} {tokens : List Token}
    (h : step s row line = .more tokens next) :
    (∃ o, s.pending = some o ∧ scanInString s o row line = .more tokens next) ∨
    (s.pending = none ∧ s.depth = 0 ∧ scanStatement s row line = .more tokens next) ∨
    s.pending = none ∧ (s.depth = 0 → s.joined = true) ∧
      tokens = (scanLine row line 0 s.depth line).1 ∧
      next = s.after (scanLine row line 0 s.depth line).2 := by
  rw [step] at h
  cases hpending : s.pending with
  | some o =>
    rw [hpending] at h
    exact Or.inl ⟨o, rfl, h⟩
  | none =>
    rw [hpending] at h
    dsimp only at h
    refine Or.inr ?_
    split at h
    · rename_i hstart
      exact Or.inl ⟨rfl, hstart.1, h⟩
    · rename_i hstart
      refine Or.inr ⟨rfl, ?_, ?_⟩
      · simpa using hstart
      · obtain ⟨rfl, rfl⟩ := LineResult.more.inj h
        exact ⟨rfl, rfl⟩

/-- A line that closes a string, goes on in it, or gives it up. -/
theorem scanInString_cases {s next : State} {o : OpenString} {row : Nat} {line : Text}
    {tokens : List Token} (h : scanInString s o row line = .more tokens next) :
    (∃ n, closingRun o.triple o.quote line = some n ∧
      tokens = ⟨.string, o.text ++ line.take n, o.row, o.line ++ line⟩ ::
        (scanLine row line 0 s.depth (line.drop n)).1 ∧
      next = { s with needsJoin := false }.after (scanLine row line 0 s.depth (line.drop n)).2) ∨
    (tokens = [⟨.junk, o.text ++ line, o.row, o.line⟩] ∧ next = { s with pending := none }) ∨
    tokens = [] ∧ next = { s with
      pending := some { o with text := o.text ++ line, line := o.line ++ line } } := by
  rw [scanInString] at h
  split at h
  · rename_i n hn
    rw [scanLine_drop] at h
    obtain ⟨rfl, rfl⟩ := LineResult.more.inj h
    exact Or.inl ⟨n, hn, rfl, rfl⟩
  · split at h
    · obtain ⟨rfl, rfl⟩ := LineResult.more.inj h
      exact Or.inr (Or.inl ⟨rfl, rfl⟩)
    · obtain ⟨rfl, rfl⟩ := LineResult.more.inj h
      exact Or.inr (Or.inr ⟨rfl, rfl⟩)

/-- Only a line of blanks outside strings ends a reading. -/
theorem step_stop {s : State} {row : Nat} {line : Text} (h : step s row line = .stop) :
    s.pending = none ∧ content line = [] := by
  rw [step] at h
  split at h
  · rw [scanInString] at h
    split at h
    · simp at h
    · split at h <;> simp at h
  · rename_i hnone
    refine ⟨hnone, ?_⟩
    split at h
    · rcases scanStatement_cases s row line with ⟨hnil, -⟩ | ⟨-, -, _, hmore, -⟩ | ⟨-, hmore⟩
      · exact hnil
      · simp [hmore] at h
      · rw [hmore] at h
        split at h <;> simp at h
    · simp at h

/-- Which blocks are closed: those to the right of the column, up to the first that is not. -/
theorem closeBlocks_split (column : Nat) (columns : List Nat) :
    ∃ closed, columns = closed ++ (closeBlocks column columns).1 ∧
      closed.length = (closeBlocks column columns).2 ∧ (∀ c ∈ closed, column < c) ∧
      innermost (closeBlocks column columns).1 ≤ column := by
  induction columns with
  | nil => exact ⟨[], rfl, rfl, by simp, by simp [closeBlocks, innermost]⟩
  | cons top below ih =>
    rw [closeBlocks]
    split
    · rename_i hless
      obtain ⟨closed, hsplit, hlen, hall, htop⟩ := ih
      refine ⟨top :: closed, by simpa using hsplit, by simpa using hlen, ?_, htop⟩
      intro c hc
      rcases List.mem_cons.mp hc with rfl | hc
      · exact hless
      · exact hall c hc
    · rename_i hle
      exact ⟨[], rfl, rfl, by simp, by simpa [innermost] using hle⟩

theorem closeBlocks_append {column : Nat} {late : List Nat} (h : ∀ c ∈ late, column < c)
    (columns : List Nat) :
    closeBlocks column (late ++ columns) =
      ((closeBlocks column columns).1, (closeBlocks column columns).2 + late.length) := by
  induction late with
  | nil => rfl
  | cons c late ih =>
    rw [List.cons_append, closeBlocks, if_pos (h c (by simp)),
      ih fun d hd => h d (List.mem_cons_of_mem c hd)]
    rfl

theorem closeBlocks_of_le {column : Nat} {columns : List Nat} (h : innermost columns ≤ column) :
    closeBlocks column columns = (columns, 0) := by
  cases columns with
  | nil => rfl
  | cons top below =>
    rw [closeBlocks, if_neg]
    simpa [innermost] using h

/-- A line that returns to an open block leaves that block open. -/
theorem closeBlocks_ne_nil {column : Nat} {columns : List Nat} (hne : columns ≠ [])
    (h : ¬(column < innermost columns ∧ column ∉ columns)) :
    (closeBlocks column columns).1 ≠ [] := by
  obtain ⟨closed, hsplit, -, hall, -⟩ := closeBlocks_split column columns
  intro hnil
  rw [hnil, List.append_nil] at hsplit
  subst hsplit
  obtain ⟨top, below, rfl⟩ := List.exists_cons_of_ne_nil hne
  refine h ⟨hall top (by simp), fun hmem => ?_⟩
  exact absurd (hall column hmem) (by omega)

theorem blockColumns_ne_nil {line : Text} {columns : List Nat} (hne : columns ≠ [])
    (h : ¬(column line < innermost columns ∧ column line ∉ columns)) :
    blockColumns line columns ≠ [] := by
  rw [blockColumns]
  split
  · simp
  · exact closeBlocks_ne_nil hne h

theorem Sane.after {s : State} (hs : s.columns ≠ []) (row : Nat) (line : Text) (depth : Int)
    {t : Text} (ht : '\\' ∉ t) : Sane (s.after (scanLine row line 0 depth t).2) :=
  ⟨scanLine_joined depth ht, hs, fun o ho => (scanLine_pending depth t o ho).2.2⟩

/-- A line without a backslash keeps the reader sane. -/
theorem Sane.step {s next : State} {row : Nat} {line : Text} {tokens : List Token} (hs : Sane s)
    (hline : '\\' ∉ line) (h : step s row line = .more tokens next) : Sane next := by
  rcases step_cases h with ⟨o, ho, h⟩ | ⟨-, -, h⟩ | ⟨-, -, -, rfl⟩
  · rcases scanInString_cases h with ⟨n, -, -, rfl⟩ | ⟨-, rfl⟩ | ⟨-, rfl⟩
    · exact Sane.after (s := { s with needsJoin := false }) hs.columns row line s.depth
        fun hmem => hline (List.mem_of_mem_drop hmem)
    · exact ⟨hs.joined, hs.columns, by simp⟩
    · refine ⟨hs.joined, hs.columns, ?_⟩
      intro o' ho'
      rw [← Option.some.inj ho']
      exact hs.quote o ho
  · rcases scanStatement_cases s row line with ⟨-, hstop⟩ | ⟨-, -, filler, hmore, -⟩ | ⟨-, hmore⟩
    · simp [hstop] at h
    · obtain ⟨-, rfl⟩ := LineResult.more.inj (hmore.symm.trans h)
      exact hs
    · rw [hmore] at h
      split at h
      · simp at h
      · rename_i hopen
        obtain ⟨-, rfl⟩ := LineResult.more.inj h
        exact Sane.after (blockColumns_ne_nil hs.columns hopen) row line s.depth
          fun hmem => hline ((List.dropWhile_sublist _).subset hmem)
  · exact Sane.after hs.columns row line s.depth hline

theorem Sane.reach {s s' : State} {row : Nat} {ls : List Text} {tokens : List Token} (hs : Sane s)
    (hls : ∀ l ∈ ls, '\\' ∉ l) (h : reach s row ls = some (tokens, s')) : Sane s' := by
  induction ls generalizing s row tokens with
  | nil =>
    obtain ⟨-, rfl⟩ := Prod.mk.inj (Option.some.inj h)
    exact hs
  | cons line rest ih =>
    rw [Token.reach] at h
    split at h
    · rename_i first next hstep
      obtain ⟨⟨others, last⟩, hothers, heq⟩ := Option.map_eq_some_iff.mp h
      obtain ⟨-, rfl⟩ := Prod.mk.inj heq
      exact ih (hs.step (hls line (by simp)) hstep) (fun l hl => hls l (by simp [hl])) hothers
    · simp at h

/-- The tokens of a line stand on it, but for the string that a line may close or give up. -/
theorem step_tokens {s next : State} {row : Nat} {line : Text} {tokens : List Token}
    (h : step s row line = .more tokens next) :
    ∀ t ∈ tokens, t.row = row ∧ t.line = line ∨
      ∃ o, s.pending = some o ∧ t.row = o.row ∧
        (t.kind = .string ∧ t.line = o.line ++ line ∨ t.kind = .junk ∧ t.line = o.line) := by
  have hscan (depth : Int) (text : Text) : ∀ t ∈ (scanLine row line 0 depth text).1,
      t.row = row ∧ t.line = line :=
    fun t ht => ⟨(scanLine_tokens depth text t ht).1, (scanLine_tokens depth text t ht).2.1⟩
  intro t ht
  rcases step_cases h with ⟨o, ho, h⟩ | ⟨-, -, h⟩ | ⟨-, -, rfl, -⟩
  · rcases scanInString_cases h with ⟨n, -, rfl, -⟩ | ⟨rfl, -⟩ | ⟨rfl, -⟩
    · rcases List.mem_cons.mp ht with rfl | ht
      · exact Or.inr ⟨o, ho, rfl, Or.inl ⟨rfl, rfl⟩⟩
      · exact Or.inl (hscan _ _ t ht)
    · rw [List.mem_singleton.mp ht]
      exact Or.inr ⟨o, ho, rfl, Or.inr ⟨rfl, rfl⟩⟩
    · simp at ht
  · refine Or.inl ?_
    rcases scanStatement_cases s row line with
      ⟨-, hstop⟩ | ⟨-, -, filler, hmore, hfiller⟩ | ⟨-, hmore⟩
    · simp [hstop] at h
    · obtain ⟨rfl, -⟩ := LineResult.more.inj (hmore.symm.trans h)
      exact (hfiller t ht).2
    · rw [hmore] at h
      split at h
      · simp at h
      · obtain ⟨rfl, -⟩ := LineResult.more.inj h
        rcases List.mem_append.mp ht with ht | ht
        · exact blockTokens_row row line s.columns t ht
        · exact hscan _ _ t ht
  · exact Or.inl (hscan _ _ t ht)

/-- A string that is open after a line has started on it, or was open before; then the line gives no
token. -/
theorem step_pending {s next : State} {row : Nat} {line : Text} {tokens : List Token}
    (h : step s row line = .more tokens next) :
    ∀ o' ∈ next.pending, (o'.row = row ∧ o'.line = line ∧ isQuote o'.quote = true) ∨
      ∃ o, s.pending = some o ∧ tokens = [] ∧ o'.row = o.row ∧ o'.line = o.line ++ line ∧
        o'.quote = o.quote := by
  intro o' ho'
  rcases step_cases h with ⟨o, ho, h⟩ | ⟨hnone, -, h⟩ | ⟨-, -, -, rfl⟩
  · rcases scanInString_cases h with ⟨n, -, -, rfl⟩ | ⟨-, rfl⟩ | ⟨rfl, rfl⟩
    · exact Or.inl (scanLine_pending _ _ o' ho')
    · simp at ho'
    · rw [← Option.some.inj ho']
      exact Or.inr ⟨o, ho, rfl, rfl, rfl, rfl⟩
  · rcases scanStatement_cases s row line with ⟨-, hstop⟩ | ⟨-, -, filler, hmore, -⟩ | ⟨-, hmore⟩
    · simp [hstop] at h
    · obtain ⟨-, rfl⟩ := LineResult.more.inj (hmore.symm.trans h)
      simp [hnone] at ho'
    · rw [hmore] at h
      split at h
      · simp at h
      · obtain ⟨-, rfl⟩ := LineResult.more.inj h
        exact Or.inl (scanLine_pending _ _ o' ho')
  · exact Or.inl (scanLine_pending _ _ o' ho')

/-- Names, numbers and strings stand on one of the lines that are read, but for a string that was
open before. -/
theorem atom_row {s : State} {row : Nat} {last : Text} {ls : List Text} {t : Token}
    (h : t ∈ (scanLines s row last ls).tokens)
    (hkind : t.kind = .name ∨ t.kind = .number ∨ t.kind = .string) :
    row ≤ t.row ∨ ∃ o, s.pending = some o ∧ t.row = o.row ∧ o.line <+: t.line := by
  have hfinish : ∀ s row last, t ∉ finish s row last := by
    intro s row last hmem
    rcases hkind with hkind | hkind | hkind <;> simpa [hkind] using finish_kinds hmem
  induction ls generalizing s row last with
  | nil =>
    rw [scanLines] at h
    split at h
    · simp at h
    · split at h
      · exact absurd h (hfinish _ _ _)
      · simp at h
  | cons line rest ih =>
    rw [scanLines] at h
    split at h
    · simp at h
    · exact absurd h (hfinish _ _ _)
    · rename_i tokens next hstep
      rcases List.mem_append.mp h with hfirst | hlater
      · rcases step_tokens hstep t hfirst with ⟨hrow, -⟩ | ⟨o, ho, hrow, ⟨-, hline⟩ | ⟨-, hline⟩⟩
        · exact Or.inl (by omega)
        · exact Or.inr ⟨o, ho, hrow, hline ▸ List.prefix_append _ _⟩
        · exact Or.inr ⟨o, ho, hrow, hline ▸ List.prefix_rfl⟩
      · rcases ih hlater with hrow | ⟨o', ho', hrow, hline⟩
        · exact Or.inl (by omega)
        · rcases step_pending hstep o' ho' with ⟨hrow', -⟩ | ⟨o, ho, -, hrow', hline', -⟩
          · exact Or.inl (by omega)
          · refine Or.inr ⟨o, ho, by omega, ?_⟩
            rw [hline'] at hline
            exact (List.prefix_append _ _).trans hline

/-- Where a name comes from: it stands on the line whose reading gives it. -/
theorem name_origin {s : State} {row : Nat} {last : Text} {ls : List Text} {t : Token}
    {before after : List Token} (h : (scanLines s row last ls).tokens = before ++ t :: after)
    (hkind : t.kind = .name) :
    ∃ done rest tokens s' pre post next, ls = done ++ t.line :: rest ∧
      t.row = row + done.length ∧ reach s row done = some (tokens, s') ∧
      step s' t.row t.line = .more (pre ++ t :: post) next ∧ before = tokens ++ pre ∧
      after = post ++ (scanLines next (t.row + 1) t.line rest).tokens := by
  obtain ⟨done, line, rest, tokens, s', pre, post, next, hls, hreach, hstep, hbefore, hafter⟩ :=
    token_origin h (by simp [hkind])
  -- Only a string or what is left of one can have started on an earlier line.
  obtain ⟨hrow, rfl⟩ : t.row = row + done.length ∧ t.line = line := by
    rcases step_tokens hstep t (by simp) with hplace | ⟨o, -, -, ⟨hstring, -⟩ | ⟨hjunk, -⟩⟩
    · exact hplace
    · simp [hkind] at hstring
    · simp [hkind] at hjunk
  rw [← hrow] at hstep hafter
  exact ⟨done, rest, tokens, s', pre, post, next, hls, hrow, hreach, hstep, hbefore, hafter⟩

end Pruner.Token
