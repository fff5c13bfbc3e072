import Pruner.Proofs.Token.PassLine

namespace Pruner.Token

open Pruner.Text

/-- The number of the last physical line of a token's line. -/
def lastRow (t : Token) : Nat :=
  t.row + ((lines t.line).length - 1)

/-- A text that is the lines from number `first` to number `last`, counted from one. -/
def IsRun (ls : List Text) (first last : Nat) (text : Text) : Prop :=
  ∃ early run late, ls = early ++ run ++ late ∧ run ≠ [] ∧ first = early.length + 1 ∧
    last = early.length + run.length ∧ text = run.flatten

namespace IsRun

variable {ls more : List Text} {first last : Nat} {line text : Text}

theorem append (h : IsRun ls first last text) : IsRun (ls ++ more) first last text := by
  obtain ⟨early, run, late, rfl, hrest⟩ := h
  exact ⟨early, run, late ++ more, by simp, hrest⟩

theorem single (ls : List Text) (line : Text) :
    IsRun (ls ++ [line]) (ls.length + 1) (ls.length + 1) line :=
  ⟨ls, [line], [], by simp, by simp, rfl, rfl, by simp⟩

theorem le_length (h : IsRun ls first last text) : last ≤ ls.length := by
  obtain ⟨early, run, late, rfl, -, -, rfl, -⟩ := h
  simp

/-- A run up to the last line ends with it. -/
theorem exists_front (h : IsRun (ls ++ [line]) first (ls.length + 1) text) :
    ∃ front, text = front ++ line := by
  obtain ⟨early, run, late, hsplit, hne, -, hlast, rfl⟩ := h
  have hlength := congrArg List.length hsplit
  simp only [List.length_append, List.length_singleton] at hlength
  obtain rfl : late = [] := List.length_eq_zero_iff.mp (by omega)
  obtain ⟨init, final, rfl⟩ := (List.eq_nil_or_concat run).resolve_left hne
  rw [List.append_nil, List.concat_eq_append, ← List.append_assoc] at hsplit
  obtain ⟨-, hline⟩ := List.append_inj' hsplit rfl
  obtain rfl : line = final := by simpa using hline
  exact ⟨init.flatten, by simp⟩

/-- A run up to the last line goes on with the next. -/
theorem extend (h : IsRun ls first ls.length text) (line : Text) :
    IsRun (ls ++ [line]) first (ls.length + 1) (text ++ line) := by
  obtain ⟨early, run, late, hsplit, -, rfl, hlast, rfl⟩ := h
  have hlength := congrArg List.length hsplit
  simp only [List.length_append] at hlength
  obtain rfl : late = [] := List.length_eq_zero_iff.mp (by omega)
  refine ⟨early, run ++ [line], [], by simp [hsplit], by simp, rfl, ?_, by simp⟩
  rw [List.length_append, List.length_singleton, ← Nat.add_assoc, ← hlast]

theorem lastRow_eq {t : Token} (hlined : Lined ls) (h : IsRun ls t.row last t.line) :
    lastRow t = last := by
  obtain ⟨early, run, late, rfl, hne, hfirst, rfl, htext⟩ := h
  have hrun : Lined run := by
    apply hlined.sublist
    rw [List.append_assoc]
    exact (List.sublist_append_left run late).trans (List.sublist_append_right early _)
  have hpos := List.length_pos_of_ne_nil hne
  rw [lastRow, htext, lines_flatten_of_lined hrun, hfirst]
  omega

end IsRun

/-- Reading some lines is reading the first of them and then the last one. -/
theorem exists_of_reach_append {s s' : State} {row : Nat} {done : List Text} {line : Text}
    {tokens : List Token} (h : reach s row (done ++ [line]) = some (tokens, s')) :
    ∃ first state more, reach s row done = some (first, state) ∧
      step state (row + done.length) line = .more more s' ∧ tokens = first ++ more := by
  induction done generalizing s row tokens with
  | nil =>
    rw [List.nil_append, reach] at h
    split at h
    · rename_i more next hstep
      obtain ⟨rfl, rfl⟩ := Prod.mk.inj (Option.some.inj h)
      exact ⟨[], s, more, rfl, hstep, by simp⟩
    · simp at h
  | cons head done ih =>
    rw [List.cons_append, reach] at h
    split at h
    · rename_i first next hstep
      obtain ⟨⟨others, last⟩, hothers, heq⟩ := Option.map_eq_some_iff.mp h
      obtain ⟨rfl, rfl⟩ := Prod.mk.inj heq
      obtain ⟨early, state, more, hreach, hlast, rfl⟩ := ih hothers
      refine ⟨first ++ early, state, more, ?_, ?_, by simp⟩
      · rw [reach, hstep]
        simp [hreach]
      · rwa [List.length_cons, ← Nat.add_assoc, Nat.add_right_comm]
    · simp at h

/-- An open string that goes up to the last line that has been read. -/
structure Held (done : List Text) (o : OpenString) : Prop where
  run : IsRun done o.row done.length o.line
  quote : isQuote o.quote = true

/-- What one line adds are tokens on runs of lines, and a string that goes up to that line. -/
theorem step_runs {s next : State} {done : List Text} {line : Text} {tokens : List Token}
    (hheld : ∀ o ∈ s.pending, Held done o) (h : step s (1 + done.length) line = .more tokens next) :
    (∀ t ∈ tokens, ∃ last, IsRun (done ++ [line]) t.row last t.line) ∧
      ∀ o ∈ next.pending, Held (done ++ [line]) o := by
  have hrow : 1 + done.length = done.length + 1 := Nat.add_comm ..
  have hsingle := IsRun.single done line
  constructor
  · intro t ht
    rcases step_tokens h t ht with ⟨hat, hline⟩ | ⟨o, ho, hat, ⟨-, hline⟩ | ⟨-, hline⟩⟩
    · rw [hat, hline, hrow]
      exact ⟨_, hsingle⟩
    · rw [hat, hline]
      exact ⟨_, (hheld o ho).run.extend line⟩
    · rw [hat, hline]
      exact ⟨_, (hheld o ho).run.append⟩
  · intro o' ho'
    rcases step_pending h o' ho' with ⟨hat, hline, hquote⟩ | ⟨o, ho, -, hat, hline, hquote⟩
    · refine ⟨?_, hquote⟩
      rw [hat, hline, hrow, List.length_append, List.length_singleton]
      exact hsingle
    · refine ⟨?_, by rw [hquote]; exact (hheld o ho).quote⟩
      rw [hat, hline, List.length_append, List.length_singleton]
      exact (hheld o ho).run.extend line

/-- All along a text the tokens stand on runs of the lines that have been read. -/
theorem reach_runs {done : List Text} {tokens : List Token} {s : State}
    (h : reach {} 1 done = some (tokens, s)) :
    (∀ t ∈ tokens, ∃ last, IsRun done t.row last t.line) ∧ ∀ o ∈ s.pending, Held done o := by
  induction done using List.reverseRecOn generalizing tokens s with
  | nil =>
    obtain ⟨rfl, rfl⟩ := Prod.mk.inj (Option.some.inj h)
    exact ⟨by simp, by simp⟩
  | append_singleton done line ih =>
    obtain ⟨first, state, more, hreach, hstep, rfl⟩ := exists_of_reach_append h
    obtain ⟨hfirst, hheld⟩ := ih hreach
    obtain ⟨hmore, hpending⟩ := step_runs hheld hstep
    refine ⟨fun t ht => ?_, hpending⟩
    rcases List.mem_append.mp ht with ht | ht
    · obtain ⟨last, hrun⟩ := hfirst t ht
      exact ⟨last, hrun.append⟩
    · exact hmore t ht

end Pruner.Token
