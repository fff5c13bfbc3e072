import Pruner.Proofs.Rule.UselessPass
import Pruner.Proofs.Token.Blocks

/-!
Removing useless `pass` statements keeps the block structure.

The lines that are left are read in step with all lines. Where a removed line would have opened or
closed blocks, the reader of the lines that are left is behind: it owes those tokens, and pays them
at the next statement.
-/
namespace Pruner.UselessPass

open Pruner.Text Pruner.Line Pruner.Token

/-- Whether a token goes with its row: the `pass` of a marked row, or the end of its line. -/
def isDropped (marked : List Nat) (t : Token) : Bool :=
  marked.contains t.row && (t.kind == .name && t.text == passWord || t.kind == .newline)

/-- The outline of a reading without the tokens that go with their rows. -/
def keptOutline (marked : List Nat) (tokens : List Token) : List (TokenKind × Text) :=
  outline (tokens.filter (!isDropped marked ·))

/-- Whether a last line has to be ended for it. -/
def endsOpen (last : Text) : Bool :=
  last.getLast?.any fun c => !(c == '\r' || c == '\n' || startsWith ['#'] (trim last))

theorem keptOutline_append (marked : List Nat) (a b : List Token) :
    keptOutline marked (a ++ b) = keptOutline marked a ++ keptOutline marked b := by
  rw [keptOutline, List.filter_append, outline_append]
  rfl

theorem keptOutline_of_forall {marked : List Nat} {tokens : List Token}
    (h : ∀ t ∈ tokens, isDropped marked t = false) : keptOutline marked tokens = outline tokens := by
  rw [keptOutline, List.filter_eq_self.mpr fun t ht => by simp [h t ht]]

theorem keptOutline_newline (marked : List Nat) (text : Text) (row : Nat) (line : Text) :
    keptOutline marked [⟨.newline, text, row, line⟩] =
      if marked.contains row then [] else [(.newline, text)] := by
  rw [keptOutline, List.filter_cons, List.filter_nil, isDropped]
  cases marked.contains row <;> rfl

theorem isDropped_of_layout {marked : List Nat} {t : Token} (h : isLayout t.kind = true) :
    isDropped marked t = false := by
  cases hkind : t.kind <;> simp_all [isDropped, isLayout]

theorem outline_filler {tokens : List Token} (h : ∀ t ∈ tokens, isFiller t.kind = true) :
    outline tokens = [] := by
  rw [outline, significant, List.filter_eq_nil_iff.mpr fun t ht => by simp [h t ht]]
  rfl

theorem finish_eq (s : State) (row : Nat) (last : Text) :
    finish s row last = (if endsOpen last then [⟨.newline, [], row - 1, []⟩] else []) ++
      List.replicate (s.columns.length - 1) ⟨.dedent, [], row, []⟩ ++
      [⟨.endMarker, [], row, []⟩] := by
  rw [finish, endsOpen]
  cases last.getLast? with
  | none => rfl
  | some c =>
    rw [Option.any_some]
    by_cases hend : (c == '\r' || c == '\n' || startsWith ['#'] (trim last)) = true
    · simp only [hend, if_true, Bool.not_true, Bool.false_eq_true, if_false]
    · simp only [hend, if_true, Bool.not_false, Bool.false_eq_true, if_false]

theorem outline_finish (s : State) (row : Nat) (last : Text) :
    outline (finish s row last) = (if endsOpen last then [(.newline, [])] else []) ++
      List.replicate (s.columns.length - 1) (.dedent, []) ++ [(.endMarker, [])] := by
  rw [finish_eq, outline_append, outline_append]
  congr
  · split <;> rfl
  · simp [outline, significant, isFiller]

theorem keptOutline_finish (marked : List Nat) (s : State) (row : Nat) (last : Text) :
    keptOutline marked (finish s row last) =
      (if endsOpen last && !marked.contains (row - 1) then [(.newline, [])] else []) ++
      List.replicate (s.columns.length - 1) (.dedent, []) ++ [(.endMarker, [])] := by
  rw [finish_eq, keptOutline_append, keptOutline_append]
  congr
  · cases endsOpen last with
    | false => rfl
    | true =>
      rw [if_pos rfl, keptOutline_newline, Bool.true_and]
      cases marked.contains (row - 1) <;> rfl
  · rw [keptOutline_of_forall fun t ht => isDropped_of_layout (by
      rw [List.eq_of_mem_replicate ht]
      rfl)]
    simp [outline, significant, isFiller]
  · rw [keptOutline_of_forall fun t ht => isDropped_of_layout (by
      rw [List.mem_singleton.mp ht]
      rfl)]
    rfl

/-- Of the tokens of a `pass` on a marked row only those that open or close blocks stay. -/
theorem keptOutline_pass {marked : List Nat} {s : State} {row : Nat} {line : Text}
    {ends : List Token} (hmarked : marked.contains row = true)
    (hends : ends = [] ∧ '\n' ∉ line ∨ ∃ text, ends = [⟨.newline, text, row, line⟩]) :
    keptOutline marked (openings s row line ++ ⟨.name, passWord, row, line⟩ :: ends) =
      outline (openings s row line) := by
  have hname : keptOutline marked (⟨.name, passWord, row, line⟩ :: ends) = [] := by
    rcases hends with ⟨rfl, -⟩ | ⟨text, rfl⟩
    · simp only [keptOutline, isDropped, hmarked, List.filter_cons, List.filter_nil]
      rfl
    · simp only [keptOutline, isDropped, hmarked, List.filter_cons, List.filter_nil]
      rfl
  rw [keptOutline_append, hname, List.append_nil,
    keptOutline_of_forall fun t ht => isDropped_of_layout (openings_layout ht)]

/-- The tokens of a line that is not marked stay. -/
theorem keptOutline_step {marked : List Nat} {s next : State} {row : Nat} {line : Text}
    {tokens : List Token} (h : step s row line = .more tokens next)
    (hrow : marked.contains row = false) : keptOutline marked tokens = outline tokens := by
  refine keptOutline_of_forall fun t ht => ?_
  rcases step_tokens h t ht with ⟨htrow, -⟩ | ⟨o, -, -, ⟨hkind, -⟩ | ⟨hkind, -⟩⟩
  · rw [isDropped, htrow, hrow]
    rfl
  · simp [isDropped, hkind]
  · simp [isDropped, hkind]

/-- How the state of the reader of the lines that are left, `s'`, may differ from that of the reader
of all lines, `s`, after `tokens` and before the lines `ls`; and what it owes. `last` is the last
line that is left. -/
inductive Behind (closed : Prop) (tokens : List Token) (s s' : State) (ls : List Text)
    (last : Text) : List (TokenKind × Text) → Prop
  /-- It is not behind. -/
  | even (h : s'.forgetRow = s.forgetRow) : Behind closed tokens s s' ls last []
  /-- Blocks are still open that a removed line has closed. The next statement closes them, since
  no block can open after a `pass`. -/
  | late (late : List Nat) (pending : s.pending = none) (depth : s.depth = 0)
      (h : s' = { s with columns := late ++ s.columns }) (inner : ∀ c ∈ late, innermost s.columns < c)
      (plain : endsInColon tokens = false) (ended : closed → endsOpen last = false) :
      Behind closed tokens s s' ls last (List.replicate late.length (.dedent, []))
  /-- A removed line has opened a block, and the next line is a statement in it. -/
  | lead (next : Text) (rest : List Text) (columns : List Nat) (pending : s.pending = none)
      (depth : s.depth = 0) (hls : ls = next :: rest) (statement : HasStatement next)
      (other : trim next ≠ passWord) (hs : s.columns = column next :: columns)
      (h : s' = { s with columns := columns }) (outer : innermost columns < column next) :
      Behind closed tokens s s' ls last [(.indent, margin next)]

/-- Where nothing is owed, a line is read in the same way. -/
theorem step_even {s s' : State} (h : s'.forgetRow = s.forgetRow) (row row' : Nat) (line : Text) :
    (step s' row' line).forgetRow = (step s row line).forgetRow := by
  rw [step_forgetRow, step_forgetRow, h]

theorem step_more_even {s s' next : State} {row : Nat} {line : Text} {tokens : List Token}
    (h : s'.forgetRow = s.forgetRow) (hstep : step s row line = .more tokens next) (row' : Nat) :
    ∃ tokens' next', step s' row' line = .more tokens' next' ∧ outline tokens' = outline tokens ∧
      next'.forgetRow = next.forgetRow := by
  have heven := step_even h row row' line
  rw [hstep] at heven
  cases hstep' : step s' row' line with
  | more tokens' next' =>
    rw [hstep'] at heven
    obtain ⟨htokens, hnext⟩ := LineResult.more.inj heven
    refine ⟨tokens', next', rfl, ?_, hnext⟩
    rw [← outline_map_forgetRow tokens', htokens, outline_map_forgetRow]
  | stop =>
    rw [hstep'] at heven
    simp [LineResult.forgetRow] at heven
  | fail error =>
    rw [hstep'] at heven
    simp [LineResult.forgetRow] at heven

theorem step_stop_even {s s' : State} {row : Nat} {line : Text} (h : s'.forgetRow = s.forgetRow)
    (hstep : step s row line = .stop) (row' : Nat) : step s' row' line = .stop := by
  have heven := step_even h row row' line
  rw [hstep] at heven
  cases hstep' : step s' row' line with
  | stop => rfl
  | more tokens' next' =>
    rw [hstep'] at heven
    simp [LineResult.forgetRow] at heven
  | fail error =>
    rw [hstep'] at heven
    simp [LineResult.forgetRow] at heven

/-- At a blank line or a comment the columns of the open blocks do not matter. -/
theorem scanStatement_of_not (s s' : State) {line : Text} (row row' : Nat)
    (h : ¬HasStatement line) :
    scanStatement s row line = .stop ∧ scanStatement s' row' line = .stop ∨
    content line ≠ [] ∧ ∃ tokens tokens', scanStatement s row line = .more tokens s ∧
      scanStatement s' row' line = .more tokens' s' ∧ outline tokens = [] ∧
      significant tokens = [] ∧ outline tokens' = [] := by
  rcases scanStatement_cases s row line with ⟨hnil, hstop⟩ | ⟨hne, -, tokens, hmore, hfill⟩ | ⟨hyes, -⟩
  · rcases scanStatement_cases s' row' line with ⟨-, hstop'⟩ | ⟨hne, -⟩ | ⟨hyes, -⟩
    · exact Or.inl ⟨hstop, hstop'⟩
    · exact absurd hnil hne
    · exact absurd hyes h
  · rcases scanStatement_cases s' row' line with ⟨hnil, -⟩ | ⟨-, -, tokens', hmore', hfill'⟩ | ⟨hyes, -⟩
    · exact absurd hnil hne
    · refine Or.inr ⟨hne, tokens, tokens', hmore, hmore', outline_filler fun t ht => (hfill t ht).1,
        ?_, outline_filler fun t ht => (hfill' t ht).1⟩
      rw [significant, List.filter_eq_nil_iff.mpr fun t ht => by simp [(hfill t ht).1]]
    · exact absurd hyes h
  · exact absurd hyes h

theorem scanStatement_of_has {s : State} {line : Text} (row : Nat) (h : HasStatement line) :
    scanStatement s row line =
      if column line < innermost s.columns ∧ column line ∉ s.columns then .fail .unknownDedent
      else .more (blockTokens row line s.columns ++ (scanLine row line 0 s.depth (content line)).1)
        ({ s with columns := blockColumns line s.columns }.after
          (scanLine row line 0 s.depth (content line)).2) := by
  rcases scanStatement_cases s row line with ⟨hnil, -⟩ | ⟨-, hnot, -⟩ | ⟨-, hmore⟩
  · obtain ⟨c, hc, -⟩ := h
    simp [hnil] at hc
  · exact absurd h hnot
  · exact hmore

/-- A statement that leads to the same open blocks pays what is owed. -/
theorem step_columns {s next : State} {line : Text} {row : Nat} {tokens : List Token}
    {columns : List Nat} {debt : List (TokenKind × Text)} (hs : Sane s)
    (hnone : s.pending = none) (hdepth : s.depth = 0) (hline : HasStatement line)
    (hstep : step s row line = .more tokens next)
    (hopen : ¬(column line < innermost columns ∧ column line ∉ columns))
    (hcolumns : blockColumns line columns = blockColumns line s.columns) (row' : Nat)
    (hdebt : outline (blockTokens row' line columns) =
      debt ++ outline (blockTokens row line s.columns)) :
    ∃ tokens' next', step { s with columns := columns } row' line = .more tokens' next' ∧
      outline tokens' = debt ++ outline tokens ∧ next'.forgetRow = next.forgetRow := by
  have hready : step { s with columns := columns } row' line =
      scanStatement { s with columns := columns } row' line := by
    simp [step, hnone, hdepth, hs.joined]
  rw [step_of_ready hs hnone hdepth, scanStatement_of_has row hline] at hstep
  split at hstep
  · simp at hstep
  · obtain ⟨rfl, rfl⟩ := LineResult.more.inj hstep
    rw [hready, scanStatement_of_has row' hline, if_neg hopen]
    have hscan := scanLine_forgetRow row' line s.depth (content line)
    rw [scanLine_forgetRow row] at hscan
    obtain ⟨htokens, hending⟩ := Prod.mk.inj hscan
    refine ⟨_, _, rfl, ?_, ?_⟩
    · rw [outline_append, outline_append, hdebt, List.append_assoc]
      congr 2
      rw [← outline_map_forgetRow, ← outline_map_forgetRow (scanLine row line 0 s.depth _).1]
      exact congrArg outline htokens.symm
    · rw [after_forgetRow, after_forgetRow]
      dsimp only
      rw [← hending, hcolumns]

theorem outline_replicate_dedent (n row : Nat) (line : Text) :
    outline (List.replicate n ⟨.dedent, [], row, line⟩) = List.replicate n (.dedent, []) := by
  simp [outline, significant, isFiller]

/-- The next statement closes the blocks that are still open. -/
theorem step_late {s next : State} {line : Text} {row : Nat} {tokens : List Token}
    {late : List Nat} (hs : Sane s) (hnone : s.pending = none) (hdepth : s.depth = 0)
    (hline : HasStatement line) (hstep : step s row line = .more tokens next)
    (hinner : ∀ c ∈ late, innermost s.columns < c) (hle : column line ≤ innermost s.columns)
    (row' : Nat) :
    ∃ tokens' next', step { s with columns := late ++ s.columns } row' line = .more tokens' next' ∧
      outline tokens' = List.replicate late.length (.dedent, []) ++ outline tokens ∧
      next'.forgetRow = next.forgetRow := by
  have hmem : column line ∈ s.columns := by
    by_contra hnot
    rw [step_of_ready hs hnone hdepth, scanStatement_of_has row hline] at hstep
    obtain ⟨top, below, hcolumns⟩ := List.exists_cons_of_ne_nil hs.columns
    have htop : innermost s.columns = top := by rw [hcolumns]; rfl
    have hne : column line ≠ top := by
      rintro heq
      exact hnot (by rw [hcolumns, heq]; simp)
    rw [if_pos ⟨by omega, hnot⟩] at hstep
    simp at hstep
  have hless : ∀ c ∈ late, column line < c := fun c hc => by
    have := hinner c hc
    omega
  have hlate : ¬column line > innermost (late ++ s.columns) := by
    cases late with
    | nil => simpa using hle
    | cons c late =>
      have := hless c (by simp)
      simp only [List.cons_append, innermost, List.headD_cons]
      omega
  have hle' : ¬column line > innermost s.columns := by omega
  refine step_columns hs hnone hdepth hline hstep (fun h => h.2 (by simp [hmem])) ?_ row' ?_
  · rw [blockColumns, blockColumns, if_neg hlate, if_neg hle', closeBlocks_append hless]
  · rw [blockTokens, blockTokens, if_neg hlate, if_neg hle', closeBlocks_append hless,
      outline_replicate_dedent, outline_replicate_dedent, List.replicate_append_replicate,
      Nat.add_comm]

/-- The next statement opens the block that is not open yet. -/
theorem step_lead {s next : State} {line : Text} {row : Nat} {tokens : List Token}
    {columns : List Nat} (hs : Sane s) (hnone : s.pending = none) (hdepth : s.depth = 0)
    (hline : HasStatement line) (hstep : step s row line = .more tokens next)
    (hcolumns : s.columns = column line :: columns) (houter : innermost columns < column line)
    (row' : Nat) :
    ∃ tokens' next', step { s with columns := columns } row' line = .more tokens' next' ∧
      outline tokens' = [(.indent, margin line)] ++ outline tokens ∧
      next'.forgetRow = next.forgetRow := by
  have hsame : closeBlocks (column line) s.columns = (s.columns, 0) :=
    closeBlocks_of_le (by rw [hcolumns]; simp [innermost])
  have houter' : closeBlocks (column line) columns = (columns, 0) := closeBlocks_of_le (by omega)
  have htop : ¬column line > innermost s.columns := by rw [hcolumns]; simp [innermost]
  refine step_columns hs hnone hdepth hline hstep (by omega) ?_ row' ?_
  · rw [blockColumns, blockColumns, if_pos houter, if_neg htop, hsame, houter', hcolumns]
  · rw [blockTokens, blockTokens, if_pos houter, if_neg htop, hsame]
    rfl

/-- After a `pass` no block can open. -/
theorem endsInColon_pass {tokens ends : List Token} {row : Nat} {line : Text}
    (hends : ends = [] ∧ '\n' ∉ line ∨ ∃ text, ends = [⟨.newline, text, row, line⟩]) :
    endsInColon (tokens ++ ⟨.name, passWord, row, line⟩ :: ends) = false := by
  rcases hends with ⟨rfl, -⟩ | ⟨text, rfl⟩
  · rw [endsInColon, significant_append, List.reverse_append]
    simp only [significant, isFiller, List.filter_cons, List.filter_nil, Bool.not_false, if_true,
      List.reverse_singleton, List.singleton_append]
    split
    · rename_i heq
      rw [← (List.cons.inj heq).1]
      rfl
    · rfl
  · rw [endsInColon, significant_append, List.reverse_append]
    rfl

theorem endsInColon_filler {tokens filler : List Token} (h : significant filler = []) :
    endsInColon (tokens ++ filler) = endsInColon tokens := by
  rw [endsInColon, significant_append, h, List.append_nil]
  rfl

theorem eq_of_forgetRow {s s' : State} (hnone : s.pending = none)
    (h : s'.forgetRow = s.forgetRow) : s' = s := by
  obtain ⟨depth, joined, columns, pending, needsJoin⟩ := s
  obtain ⟨depth', joined', columns', pending', needsJoin'⟩ := s'
  obtain rfl : pending = none := hnone
  cases pending' <;> simp_all [State.forgetRow]

/-- A reader that is not in the middle of opening a block has some blocks still to close, or none. -/
theorem Behind.cases_late {closed : Prop} {tokens : List Token} {s s' : State} {ls : List Text}
    {last : Text} {debt : List (TokenKind × Text)} (h : Behind closed tokens s s' ls last debt)
    (hnone : s.pending = none)
    (hlead : ∀ next rest, ls = next :: rest → trim next = passWord) :
    ∃ late, s' = { s with columns := late ++ s.columns } ∧
      (∀ c ∈ late, innermost s.columns < c) ∧ (late ≠ [] → endsInColon tokens = false) ∧
      debt = List.replicate late.length (.dedent, []) := by
  cases h with
  | even h => exact ⟨[], eq_of_forgetRow hnone h, by simp, by simp, rfl⟩
  | late late _ _ h inner plain _ => exact ⟨late, h, inner, fun _ => plain, rfl⟩
  | lead next rest columns _ _ hls _ other => exact absurd (hlead next rest hls) other

/-- Removing a useless `pass` puts the reader behind by the blocks that it opens or closes. -/
theorem Behind.drop {closed : Prop} {tokens ends : List Token} {s s' : State} {line : Text}
    {rest : List Text} {last : Text} {debt : List (TokenKind × Text)} {row : Nat}
    (h : Behind closed tokens s s' (line :: rest) last debt) (hp : PassRow s row line rest)
    (hends : ends = [] ∧ '\n' ∉ line ∨ ∃ text, ends = [⟨.newline, text, row, line⟩])
    (hindent : s.depth = 0 → innermost s.columns < column line → endsInColon tokens = true)
    (hlast : endsOpen last = false) :
    Behind closed (tokens ++ (openings s row line ++ ⟨.name, passWord, row, line⟩ :: ends))
      (withBlocks s line) s' rest last (debt ++ outline (openings s row line)) := by
  by_cases hdepth : s.depth = 0
  · obtain ⟨late, hs', hinner, hplain, rfl⟩ := h.cases_late hp.pending fun next rest' heq => by
      rw [← (List.cons.inj heq).1]
      exact hp.trim_eq
    rw [withBlocks, openings, if_pos hdepth, if_pos hdepth]
    by_cases hopens : innermost s.columns < column line
    · -- The `pass` opens a block, so nothing was owed before.
      obtain rfl : late = [] := by
        by_contra hne
        have := hindent hdepth hopens
        simp [hplain hne] at this
      obtain ⟨next, rest', hrest, hstatement, hmargin, hother⟩ :=
        hp.useless.resolve_left fun hle => by
          have := hle hdepth
          omega
      have hcolumn := column_eq_of_margin_eq hmargin
      have hcolumns : blockColumns line s.columns = column next :: s.columns := by
        rw [blockColumns, if_pos hopens, closeBlocks_of_le (by omega), hcolumn]
      have hdebt : outline (blockTokens row line s.columns) = [(.indent, margin next)] := by
        rw [blockTokens, if_pos hopens, hmargin]
        rfl
      rw [hcolumns, hdebt]
      exact .lead next rest' s.columns hp.pending hdepth hrest hstatement hother rfl hs'
        (by omega)
    · -- The `pass` closes blocks, which stay open for the reader of the lines that are left.
      obtain ⟨shut, hsplit, hlen, hshut, hbelow⟩ := closeBlocks_split (column line) s.columns
      have hcolumns : blockColumns line s.columns = (closeBlocks (column line) s.columns).1 := by
        rw [blockColumns, if_neg hopens]
      have hdebt : outline (blockTokens row line s.columns) =
          List.replicate shut.length (.dedent, []) := by
        rw [blockTokens, if_neg hopens, outline_replicate_dedent, hlen]
      rw [hdebt, List.replicate_append_replicate, ← List.length_append, ← List.append_assoc]
      refine .late (late ++ shut) hp.pending hdepth ?_ ?_ (endsInColon_pass hends) fun _ => hlast
      · rw [hcolumns, List.append_assoc, ← hsplit]
        exact hs'
      · intro c hc
        simp only [hcolumns]
        rcases List.mem_append.mp hc with hc | hc
        · have := hinner c hc
          omega
        · have := hshut c hc
          omega
  · rw [withBlocks, openings, if_neg hdepth, if_neg hdepth]
    cases h with
    | even h => exact .even h
    | late _ _ hzero => exact absurd hzero hdepth
    | lead _ _ _ _ hzero => exact absurd hzero hdepth

/-- A line that is left is read with the same tokens, after those that are owed. -/
theorem Behind.step {closed : Prop} {tokens more : List Token} {s s' next : State} {line : Text}
    {rest : List Text} {last : Text} {debt : List (TokenKind × Text)} {row : Nat}
    (h : Behind closed tokens s s' (line :: rest) last debt) (hs : Sane s)
    (hstep : step s row line = .more more next)
    (hindent : HasStatement line → s.pending = none → s.depth = 0 →
      innermost s.columns < column line → endsInColon tokens = true)
    (hended : closed → content line ≠ [] → ¬HasStatement line → endsOpen line = false)
    (row' : Nat) :
    ∃ more' next' debt', Token.step s' row' line = .more more' next' ∧
      outline more' ++ debt' = debt ++ outline more ∧
      Behind closed (tokens ++ more) next next' rest line debt' := by
  cases h with
  | even h =>
    obtain ⟨more', next', hstep', houtline, hnext⟩ := step_more_even h hstep row'
    exact ⟨more', next', [], hstep', by simp [houtline], .even hnext⟩
  | late late hnone hdepth h inner plain _ =>
    by_cases hstatement : HasStatement line
    · have hle : column line ≤ innermost s.columns := by
        by_contra hopens
        have := hindent hstatement hnone hdepth (by omega)
        simp [plain] at this
      obtain ⟨more', next', hstep', houtline, hnext⟩ :=
        step_late hs hnone hdepth hstatement hstep inner hle row'
      rw [← h] at hstep'
      exact ⟨more', next', [], hstep', by simp [houtline], .even hnext⟩
    · have hs' : Token.step s' row' line = scanStatement s' row' line := by
        simp [Token.step, h, hnone, hdepth, hs.joined]
      rw [step_of_ready hs hnone hdepth] at hstep
      rcases scanStatement_of_not s s' row row' hstatement with
        ⟨hstop, -⟩ | ⟨hne, filler, more', hmore, hmore', houtline, hfiller, houtline'⟩
      · simp [hstop] at hstep
      · obtain ⟨rfl, rfl⟩ := LineResult.more.inj (hmore.symm.trans hstep)
        refine ⟨more', s', _, hs'.trans hmore', ?_, .late late hnone hdepth h inner ?_ ?_⟩
        · rw [houtline, houtline', List.nil_append, List.append_nil]
        · rwa [endsInColon_filler hfiller]
        · exact fun hclosed => hended hclosed hne hstatement
  | lead next rest columns hnone hdepth hls hstatement _ hcolumns h outer =>
    obtain ⟨rfl, rfl⟩ := List.cons.inj hls
    obtain ⟨more', next', hstep', houtline, hnext⟩ :=
      step_lead hs hnone hdepth hstatement hstep hcolumns outer row'
    rw [← h] at hstep'
    exact ⟨more', next', [], hstep', by simp [houtline], .even hnext⟩

theorem HasStatement.content_ne_nil {line : Text} (h : HasStatement line) : content line ≠ [] := by
  obtain ⟨c, hc, -⟩ := h
  intro hnil
  simp [hnil] at hc

/-- A last line of blanks ends both readings. -/
theorem Behind.stop {closed : Prop} {tokens : List Token} {s s' : State} {line : Text}
    {rest : List Text} {last : Text} {debt : List (TokenKind × Text)} {row : Nat}
    (h : Behind closed tokens s s' (line :: rest) last debt) (hs : Sane s)
    (hstep : Token.step s row line = .stop) (row' : Nat) : Token.step s' row' line = .stop := by
  have hnot : ¬HasStatement line := fun hstatement =>
    HasStatement.content_ne_nil hstatement (step_stop hstep).2
  cases h with
  | even h => exact step_stop_even h hstep row'
  | late late hnone hdepth h =>
    have hs' : Token.step s' row' line = scanStatement s' row' line := by
      simp [Token.step, h, hnone, hdepth, hs.joined]
    rw [step_of_ready hs hnone hdepth] at hstep
    rcases scanStatement_of_not s s' row row' hnot with
      ⟨-, hstop⟩ | ⟨-, filler, _, hmore, -⟩
    · exact hs'.trans hstop
    · simp [hmore] at hstep
  | lead next rest columns hnone hdepth hls hstatement =>
    obtain ⟨rfl, rfl⟩ := List.cons.inj hls
    exact absurd hstatement hnot

/-- At the end of the text the blocks that are still open are closed. -/
theorem Behind.finish {closed : Prop} {tokens : List Token} {s s' : State} {ls : List Text}
    {last last' : Text} {debt : List (TokenKind × Text)} {marked : List Nat} {row : Nat}
    (h : Behind closed tokens s s' ls last' debt) (hs : Sane s)
    (hls : ∀ next rest, ls = next :: rest → ¬HasStatement next)
    (hlast : endsOpen last' = (endsOpen last && !marked.contains (row - 1))) (row' : Nat)
    (hclosed : closed) :
    outline (finish s' row' last') = debt ++ keptOutline marked (finish s row last) := by
  rw [outline_finish, keptOutline_finish, hlast]
  cases h with
  | even h =>
    have hcolumns : s'.forgetRow.columns = s.forgetRow.columns := by rw [h]
    change s'.columns = s.columns at hcolumns
    rw [hcolumns, List.nil_append]
  | late late _ _ h _ _ ended =>
    have hpos : 0 < s.columns.length := List.length_pos_of_ne_nil hs.columns
    have hsum : (late ++ s.columns).length - 1 = late.length + (s.columns.length - 1) := by
      rw [List.length_append]
      omega
    rw [← hlast, ended hclosed, h]
    simp only [hsum, List.replicate_add, Bool.false_eq_true, if_false, List.nil_append,
      List.append_assoc]
  | lead next rest _ _ _ hnext statement => exact absurd statement (hls next rest hnext)

/-- Behind or not, the reader is inside the same string, bracket and line. -/
theorem Behind.same {closed : Prop} {tokens : List Token} {s s' : State} {ls : List Text}
    {last : Text} {debt : List (TokenKind × Text)} (h : Behind closed tokens s s' ls last debt) :
    s'.pending.isSome = s.pending.isSome ∧ s'.depth = s.depth ∧ s'.joined = s.joined := by
  cases h with
  | even h =>
    have hpending : s'.forgetRow.pending.isSome = s.forgetRow.pending.isSome := by rw [h]
    have hdepth : s'.forgetRow.depth = s.forgetRow.depth := by rw [h]
    have hjoined : s'.forgetRow.joined = s.forgetRow.joined := by rw [h]
    exact ⟨by simpa [State.forgetRow] using hpending, hdepth, hjoined⟩
  | late late _ _ h => simp [h]
  | lead next rest columns _ _ _ _ _ _ h => simp [h]

theorem endsOpen_of_endsLine {line : Text} (h : EndsLine line) : endsOpen line = false := by
  rw [endsOpen, show line.getLast? = some '\n' from h]
  rfl

/-- A blank line or a comment needs no end, unless it starts with a carriage return. -/
theorem endsOpen_of_not_statement {line : Text} (h : IsLine line) (hne : content line ≠ [])
    (hnot : ¬HasStatement line)
    (hreturn : (content line).head? = some '\r' → endsOpen line = false) :
    endsOpen line = false := by
  obtain ⟨c, body, hbody⟩ := List.exists_cons_of_ne_nil hne
  have hhead : c = '#' ∨ c = '\r' ∨ c = '\n' := by
    by_contra hother
    refine hnot ⟨c, by simp [hbody], ?_⟩
    tauto
  rcases hhead with rfl | rfl | rfl
  · have hhash : startsWith ['#'] (trim line) = true := by
      obtain ⟨rest, htrim⟩ := trim_cons (c := '#') (by decide) body
      rw [← trim_content, hbody, htrim]
      rfl
    rw [endsOpen, hhash]
    simp
  · exact hreturn (by simp [hbody])
  · rcases h.cases with ⟨text, -, rfl⟩ | hmem
    · exact endsOpen_of_endsLine (endsLine_append text)
    · exact absurd ((content_suffix line).subset (by simp [hbody])) hmem

/-- The last line is not one that starts with a carriage return and is left open. -/
def LastLineEnded (source : Text) : Prop :=
  ∀ line ∈ (lines source).getLast?, (content line).head? = some '\r' → endsOpen line = false

instance (source : Text) : Decidable (LastLineEnded source) :=
  inferInstanceAs (Decidable (∀ line ∈ (lines source).getLast?,
    (content line).head? = some '\r' → endsOpen line = false))

/-- The rows that are removed from a source. -/
def removed (source : Text) : List Nat :=
  rows {} (scan source).tokens

/-- Two readers of a source between two of its lines. Both have come to the lines `rest`; one has
read the lines `done`, the other has left out those that are removed, and was at `last` before. -/
structure InStep (source : Text) (done rest : List Text) (tokens : List Token) (s s' : State)
    (last : Text) (debt : List (TokenKind × Text)) : Prop where
  lines_eq : lines source = done ++ rest
  reach_eq : reach {} 1 done = some (tokens, s)
  behind : Behind (LastLineEnded source) tokens s s' rest last debt
  last_eq : endsOpen last = (endsOpen (done.getLastD []) && !(removed source).contains done.length)
  ended : rest ≠ [] → endsOpen last = false

namespace InStep

variable {source : Text} {done rest : List Text} {line : Text} {tokens : List Token} {s s' : State}
  {last : Text} {debt : List (TokenKind × Text)}

theorem initial (source : Text) : InStep source [] (lines source) [] {} {} [] [] :=
  ⟨rfl, rfl, .even rfl, rfl, fun _ => rfl⟩

theorem place (h : InStep source done (line :: rest) tokens s s' last debt) :
    Place source done line rest tokens s :=
  ⟨h.lines_eq, h.reach_eq⟩

/-- A line opens a block only after a colon. -/
theorem indent {more : List Token} {next : State}
    (h : InStep source done (line :: rest) tokens s s' last debt) (ho : Orderly source)
    (hstep : Token.step s (1 + done.length) line = .more more next)
    (hhead : more.head?.map (·.kind) = some .indent) : endsInColon tokens = true := by
  cases more with
  | nil => simp at hhead
  | cons indent others =>
    have htokens : (scan source).tokens = tokens ++ indent ::
        (others ++ (scanLines next (1 + done.length + 1) line rest).tokens) := by
      rw [h.place.scan_eq]
      simp [scanLines, hstep]
    exact ho.indent htokens (by simpa using hhead)

/-- A row that is removed. -/
theorem drop {ends : List Token} (h : InStep source done (line :: rest) tokens s s' last debt)
    (ho : Orderly source) (hmarked : (removed source).contains (1 + done.length) = true)
    (hrow : PassRow s (1 + done.length) line rest)
    (hstep : Token.step s (1 + done.length) line =
      .more (openings s (1 + done.length) line ++
        ⟨.name, passWord, 1 + done.length, line⟩ :: ends) (withBlocks s line))
    (hends : ends = [] ∧ '\n' ∉ line ∨ ∃ text, ends = [⟨.newline, text, 1 + done.length, line⟩]) :
    InStep source (done ++ [line]) rest
      (tokens ++ (openings s (1 + done.length) line ++
        ⟨.name, passWord, 1 + done.length, line⟩ :: ends)) (withBlocks s line) s' last
      (debt ++ outline (openings s (1 + done.length) line)) := by
  have hlast := h.ended (by simp)
  refine ⟨by simp [h.lines_eq], reach_append_singleton h.reach_eq hstep,
    h.behind.drop hrow hends ?_ hlast, ?_, fun _ => hlast⟩
  · intro hdepth hopens
    refine h.indent ho hstep ?_
    rw [openings, if_pos hdepth, blockTokens, if_pos hopens]
    rfl
  · rw [List.length_append, List.length_singleton, Nat.add_comm, hmarked, hlast]
    simp

theorem isLine (h : InStep source done (line :: rest) tokens s s' last debt) : IsLine line :=
  h.place.lined.line line (by simp)

/-- Every line but the last has its end. -/
theorem endsOpen_line (h : InStep source done (line :: rest) tokens s s' last debt)
    (hrest : rest ≠ []) : endsOpen line = false := by
  obtain ⟨next, rest, rfl⟩ := List.exists_cons_of_ne_nil hrest
  exact endsOpen_of_endsLine h.place.lined.head_ended

/-- A row that is left. -/
theorem keep {more : List Token} {next : State}
    (h : InStep source done (line :: rest) tokens s s' last debt) (ho : Orderly source)
    (hmarked : (removed source).contains (1 + done.length) = false)
    (hstep : Token.step s (1 + done.length) line = .more more next) (row' : Nat) :
    ∃ more' next' debt', Token.step s' row' line = .more more' next' ∧
      outline more' ++ debt' = debt ++ outline more ∧
      InStep source (done ++ [line]) rest (tokens ++ more) next next' line debt' := by
  have hs := h.place.sane ho
  have hindent : HasStatement line → s.pending = none → s.depth = 0 →
      innermost s.columns < column line → endsInColon tokens = true := by
    intro hstatement hnone hdepth hopens
    have hready := hstep
    rw [step_of_ready hs hnone hdepth, scanStatement_of_has _ hstatement, if_neg (by omega)]
      at hready
    refine h.indent ho hstep ?_
    rw [← (LineResult.more.inj hready).1, blockTokens, if_pos hopens]
    rfl
  have hended : LastLineEnded source → content line ≠ [] → ¬HasStatement line →
      endsOpen line = false := by
    intro hclosed hne hnot
    refine endsOpen_of_not_statement h.isLine hne hnot ?_
    by_cases hrest : rest = []
    · refine hclosed line ?_
      simp [h.lines_eq, hrest]
    · exact fun _ => h.endsOpen_line hrest
  obtain ⟨more', next', debt', hstep', houtline, hbehind⟩ :=
    h.behind.step hs hstep hindent hended row'
  refine ⟨more', next', debt', hstep', houtline, by simp [h.lines_eq],
    reach_append_singleton h.reach_eq hstep, hbehind, ?_, h.endsOpen_line⟩
  rw [List.length_append, List.length_singleton, Nat.add_comm, hmarked]
  simp

/-- At the end of the text both readings end. -/
theorem scanLines_nil (h : InStep source done [] tokens s s' last debt) (ho : Orderly source)
    (row' : Nat) (hread : (scanLines s (1 + done.length) (done.getLastD []) []).error = none) :
    (scanLines s' row' last []).error = none ∧ (LastLineEnded source →
      outline (scanLines s' row' last []).tokens = debt ++ keptOutline (removed source)
        (scanLines s (1 + done.length) (done.getLastD []) []).tokens) := by
  have hs : Sane s := sane_initial.reach
    (fun l hl => ho.line_no_backslash (by simpa [h.lines_eq] using hl)) h.reach_eq
  have hsame := h.behind.same
  rw [scanLines] at hread
  split at hread
  · simp at hread
  · rename_i hnone
    split at hread
    · rename_i hdone
      have hall : scanLines s (1 + done.length) (done.getLastD []) [] =
          ⟨Token.finish s (1 + done.length) (done.getLastD []), none⟩ := by
        rw [scanLines, if_neg hnone, if_pos hdone]
      have hleft : scanLines s' row' last [] = ⟨Token.finish s' row' last, none⟩ := by
        rw [scanLines, hsame.1, hsame.2.1, hsame.2.2, if_neg hnone, if_pos hdone]
      rw [hall, hleft]
      exact ⟨rfl, fun hclosed => h.behind.finish hs (by simp) (by simpa using h.last_eq) row' hclosed⟩
    · simp at hread

/-- The rest of the lines that are left gives what is owed and what stays of the rest of all
lines. -/
theorem scanLines_kept (h : InStep source done rest tokens s s' last debt) (ho : Orderly source)
    (row' : Nat)
    (hread : (scanLines s (1 + done.length) (done.getLastD []) rest).error = none) :
    (scanLines s' row' last (dropRows (removed source) (1 + done.length) rest)).error = none ∧
    (LastLineEnded source →
      outline (scanLines s' row' last (dropRows (removed source) (1 + done.length) rest)).tokens =
        debt ++ keptOutline (removed source)
          (scanLines s (1 + done.length) (done.getLastD []) rest).tokens) := by
  induction rest generalizing done tokens s s' last debt row' with
  | nil => exact h.scanLines_nil ho row' hread
  | cons line rest ih =>
    have hs := h.place.sane ho
    have hafter (more : List Token) (next : State)
        (hstep : Token.step s (1 + done.length) line = .more more next) :
        scanLines s (1 + done.length) (done.getLastD []) (line :: rest) =
          ⟨more ++ (scanLines next (1 + (done ++ [line]).length) ((done ++ [line]).getLastD [])
              rest).tokens,
            (scanLines next (1 + (done ++ [line]).length) ((done ++ [line]).getLastD [])
              rest).error⟩ := by
      simp [scanLines, hstep, ← Nat.add_assoc]
    rw [dropRows]
    cases hmarked : (removed source).contains (1 + done.length) with
    | true =>
      have hrow := passRow_of_marked ho h.place (by simpa [removed] using hmarked)
      obtain ⟨ends, hstep, hends⟩ := hrow.reads
      rw [hafter _ _ hstep] at hread ⊢
      obtain ⟨herror, houtline⟩ := ih (h.drop ho hmarked hrow hstep hends) row' hread
      rw [List.length_append, List.length_singleton, ← Nat.add_assoc] at herror houtline
      refine ⟨herror, fun hclosed => ?_⟩
      rw [if_pos rfl, houtline hclosed, keptOutline_append, keptOutline_pass hmarked hends,
        List.append_assoc]
      simp [← Nat.add_assoc]
    | false =>
      cases hstep : Token.step s (1 + done.length) line with
      | fail error => simp [scanLines, hstep] at hread
      | stop =>
        have hnot : ¬HasStatement line := fun hstatement =>
          HasStatement.content_ne_nil hstatement (step_stop hstep).2
        have hstop := h.behind.stop hs hstep row'
        simp only [Bool.false_eq_true, if_false, scanLines, hstep, hstop, true_and]
        refine h.behind.finish hs ?_ (by simpa using h.last_eq) row'
        rintro next rest' heq
        rwa [← (List.cons.inj heq).1]
      | more more next =>
        obtain ⟨more', next', debt', hstep', howed, hnext⟩ := h.keep ho hmarked hstep row'
        rw [hafter _ _ hstep] at hread ⊢
        obtain ⟨herror, houtline⟩ := ih hnext (row' + 1) hread
        rw [List.length_append, List.length_singleton, ← Nat.add_assoc] at herror houtline
        rw [if_neg (by simp), scanLines, hstep']
        refine ⟨herror, fun hclosed => ?_⟩
        dsimp only
        rw [outline_append, houtline hclosed, keptOutline_append, keptOutline_step hstep hmarked,
          ← List.append_assoc, howed, List.append_assoc]
        simp [← Nat.add_assoc]

end InStep

/-- The lines that are left. -/
theorem lines_filter {source : Text} (h : (scan source).error = none) :
    lines (filter source) = dropRows (removed source) 1 (lines source) := by
  have hkept : filterLines source = dropRows (removed source) 1 (lines source) := by
    rw [filterLines, rowsOf]
    simp only [h]
    rfl
  rw [filter, hkept, lines_flatten_of_lined ((lined_lines source).sublist (dropRows_sublist ..))]

/-- Without useless `pass` statements a source can still be read. Its statements and blocks are
those it had but for the statements that were removed, and no block has become empty. -/
theorem filter_keeps_blocks {source : Text} (h : Orderly source) :
    (scan (filter source)).error = none ∧
    (LastLineEnded source →
      outline (scan (filter source)).tokens = keptOutline (rowsOf source).1 (scan source).tokens) ∧
    (significant (scan (filter source)).tokens).IsChain Neighbours := by
  obtain ⟨herror, houtline⟩ := (InStep.initial source).scanLines_kept h 1 h.readable
  have hlines := lines_filter h.readable
  have hread : (scan (filter source)).error = none := by
    rw [scan, hlines]
    exact herror
  refine ⟨hread, fun hclosed => ?_, ?_⟩
  · rw [scan, hlines]
    exact houtline hclosed
  · refine (scanLines_neighbours sane_initial (fun l hl => ?_) hread).1
    rw [hlines] at hl
    exact h.line_no_backslash ((dropRows_sublist ..).subset hl)

/-- A `pass` that opens its block, one that closes a block and one that closes two. -/
def nestedPasses : Text :=
  "if a:\n    if b:\n        pass\n        c\n    pass\n    if d:\n        e\npass\n".toList

theorem filter_keeps_blocks_nested :
    Orderly nestedPasses ∧ LastLineEnded nestedPasses ∧
      filter nestedPasses = "if a:\n    if b:\n        c\n    if d:\n        e\n".toList ∧
      outline (scan (filter nestedPasses)).tokens =
        keptOutline (rowsOf nestedPasses).1 (scan nestedPasses).tokens :=
  ⟨by decide +kernel, by decide +kernel, by decide +kernel,
    (filter_keeps_blocks (by decide +kernel)).2.1 (by decide +kernel)⟩

/-- A last line that starts with a carriage return and has no end: the reader ends a statement
there, and the blocks that the removed `pass` closed are now closed only after that. -/
theorem block_closed_after_open_last_line :
    Orderly "if a:\n    b\npass\n\rfoo".toList ∧
      filter "if a:\n    b\npass\n\rfoo".toList = "if a:\n    b\n\rfoo".toList ∧
      outline (scan (filter "if a:\n    b\npass\n\rfoo".toList)).tokens ≠
        keptOutline (rowsOf "if a:\n    b\npass\n\rfoo".toList).1
          (scan "if a:\n    b\npass\n\rfoo".toList).tokens := by
  decide +kernel

end Pruner.UselessPass
