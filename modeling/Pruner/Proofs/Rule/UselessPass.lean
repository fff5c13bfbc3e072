import Pruner.Rule.UselessPass
import Pruner.Proofs.Token.PassLine
import Mathlib.Data.List.Chain

namespace Pruner.UselessPass

open Pruner.Text Pruner.Line Pruner.Token

theorem isPass_iff {t : Token} : isPass t = true ↔ t.kind = .name ∧ trim t.line = passWord := by
  rw [isPass, Bool.and_eq_true, beq_iff_eq, beq_iff_eq]
  rfl

theorem rows_append (memory : Memory) (before after : List Token) :
    rows memory (before ++ after) =
      rows memory before ++ rows (before.foldl remember memory) after := by
  induction before generalizing memory with
  | nil => rfl
  | cons token before ih => simp [rows, ih]

/-- A marked row is that of a `pass` that does not open its block, or the row before a token that
makes it useless. -/
theorem mem_rows {k : Nat} {memory : Memory} {tokens : List Token} (h : k ∈ rows memory tokens) :
    ∃ before t after, tokens = before ++ t :: after ∧
      (afterPass (before.foldl remember memory) t = true ∧ k = t.row - 1 ∨
        notFirst (before.foldl remember memory) t = true ∧ k = t.row) := by
  induction tokens generalizing memory with
  | nil => simp [rows] at h
  | cons token rest ih =>
    rw [rows, List.mem_append, List.mem_append] at h
    rcases h with (h | h) | h
    · refine ⟨[], token, rest, rfl, Or.inl ?_⟩
      split at h
      · exact ⟨‹_›, List.mem_singleton.mp h⟩
      · simp at h
    · refine ⟨[], token, rest, rfl, Or.inr ?_⟩
      split at h
      · exact ⟨‹_›, List.mem_singleton.mp h⟩
      · simp at h
    · obtain ⟨before, t, after, rfl, hcases⟩ := ih h
      exact ⟨token :: before, t, after, rfl, hcases⟩

theorem kind_foldl_remember (tokens : List Token) :
    (tokens.foldl remember {}).kind = tokens.getLast?.map (·.kind) := by
  cases tokens using List.reverseRecOn with
  | nil => rfl
  | append_singleton rest t => simp [List.foldl_append, remember]

/-- The last `pass` that is remembered is a token that has been read. -/
theorem lastPass_foldl_remember {tokens : List Token} {row : Nat} {blanks : Text}
    (h : (tokens.foldl remember {}).lastPass = some (row, blanks)) :
    ∃ q ∈ tokens, isPass q = true ∧ q.row = row ∧ indentation q.line = blanks := by
  induction tokens using List.reverseRecOn with
  | nil => simp at h
  | append_singleton rest t ih =>
    rw [List.foldl_append, List.foldl_cons, List.foldl_nil, remember] at h
    dsimp only at h
    split at h
    · rename_i hpass
      obtain ⟨hrow, hblanks⟩ := Prod.mk.inj (Option.some.inj h)
      exact ⟨t, by simp, hpass, hrow, hblanks⟩
    · obtain ⟨q, hq, hrest⟩ := ih h
      exact ⟨q, by simp [hq], hrest⟩

/-- The `pass` that a token makes useless stands on the row before it. -/
theorem exists_of_afterPass {before : List Token} {t : Token}
    (h : afterPass (before.foldl remember {}) t = true) :
    ∃ early q late, before = early ++ q :: late ∧ isPass q = true ∧ t.row = q.row + 1 ∧
      isPass t = false ∧ isAtom t.kind = true ∧ indentation t.line = indentation q.line := by
  simp only [afterPass, Bool.and_eq_true, Bool.not_eq_true'] at h
  obtain ⟨⟨hnot, hatom⟩, hlast⟩ := h
  cases hmemory : (before.foldl remember {}).lastPass with
  | none => simp [hmemory] at hlast
  | some last =>
    obtain ⟨row, blanks⟩ := last
    obtain ⟨q, hq, hpass, hrow, hblanks⟩ := lastPass_foldl_remember hmemory
    simp only [hmemory, Option.any_some, Bool.and_eq_true, beq_iff_eq] at hlast
    obtain ⟨early, late, rfl⟩ := List.append_of_mem hq
    refine ⟨early, q, late, rfl, hpass, by omega, hnot, hatom, ?_⟩
    rw [hblanks, hlast.2]

/-- The two reasons to mark a row. -/
theorem marked_cases {k : Nat} {tokens : List Token} (h : k ∈ rows {} tokens) :
    (∃ before t after, tokens = before ++ t :: after ∧ isPass t = true ∧ t.row = k ∧
      before.getLast?.map (·.kind) ≠ some .indent) ∨
    ∃ before q after, tokens = before ++ q :: after ∧ isPass q = true ∧ q.row = k ∧
      ∃ t ∈ after, t.row = k + 1 ∧ isPass t = false ∧ isAtom t.kind = true ∧
        indentation t.line = indentation q.line := by
  obtain ⟨before, t, after, rfl, ⟨hafter, rfl⟩ | ⟨hfirst, rfl⟩⟩ := mem_rows h
  · obtain ⟨early, q, late, rfl, hpass, hrow, hrest⟩ := exists_of_afterPass hafter
    exact Or.inr ⟨early, q, late ++ t :: after, by simp, hpass, by omega, t, by simp, by omega, hrest⟩
  · simp only [notFirst, Bool.and_eq_true, Bool.not_eq_true', bne_iff_ne, ne_eq] at hfirst
    refine Or.inl ⟨before, t, after, rfl, hfirst.1.1, rfl, ?_⟩
    rw [← kind_foldl_remember]
    exact hfirst.1.2

/-- A marked row is that of a line with nothing but `pass`, whatever the other lines are. -/
theorem trim_of_mem_rows {ls done rest : List Text} {line : Text} (hls : ls = done ++ line :: rest)
    (hmarked : 1 + done.length ∈ rows {} (scanLines {} 1 [] ls).tokens) :
    trim line = passWord := by
  obtain ⟨before, t, after, htokens, hpass, hrow⟩ : ∃ before t after,
      (scanLines {} 1 [] ls).tokens = before ++ t :: after ∧ isPass t = true ∧
        t.row = 1 + done.length := by
    rcases marked_cases hmarked with ⟨before, t, after, htokens, hpass, hrow, -⟩ |
      ⟨before, t, after, htokens, hpass, hrow, -⟩
    · exact ⟨before, t, after, htokens, hpass, hrow⟩
    · exact ⟨before, t, after, htokens, hpass, hrow⟩
  obtain ⟨hkind, htrim⟩ := isPass_iff.mp hpass
  obtain ⟨done', rest', -, -, -, -, -, hls', hrow', -⟩ := name_origin htokens hkind
  obtain ⟨-, hrest⟩ := List.append_inj (hls'.symm.trans hls) (by omega)
  rw [← (List.cons.inj hrest).1]
  exact htrim

theorem dropRows_sublist (marked : List Nat) (row : Nat) (ls : List Text) :
    (dropRows marked row ls).Sublist ls := by
  induction ls generalizing row with
  | nil => exact List.Sublist.slnil
  | cons line rest ih =>
    rw [dropRows]
    split
    · exact (ih (row + 1)).cons line
    · exact (ih (row + 1)).cons_cons line

/-- Whether the last logical line ends in a colon. -/
def endsInColon (tokens : List Token) : Bool :=
  match (significant tokens).reverse with
  | newline :: colon :: _ => newline.kind == .newline && colon.kind == .op && colon.text == [':']
  | _ => false

/-- A source that can be read without junk or backslashes, in which blocks open only after a colon,
and in which each `pass` alone on its line is a whole logical line. -/
structure Orderly (source : Text) : Prop where
  readable : (scan source).error = none
  no_junk : ∀ t ∈ (scan source).tokens, t.kind ≠ .junk
  no_backslash : '\\' ∉ source
  indents : ∀ i : Fin (scan source).tokens.length, (scan source).tokens[i].kind = .indent →
    endsInColon ((scan source).tokens.take i) = true
  passes : (scan source).tokens.IsChain fun t next => isPass t = true → next.kind = .newline

instance (source : Text) : Decidable (Orderly source) :=
  decidable_of_iff
    ((scan source).error = none ∧ (∀ t ∈ (scan source).tokens, t.kind ≠ .junk) ∧ '\\' ∉ source ∧
      (∀ i : Fin (scan source).tokens.length, (scan source).tokens[i].kind = .indent →
        endsInColon ((scan source).tokens.take i) = true) ∧
      (scan source).tokens.IsChain fun t next => isPass t = true → next.kind = .newline)
    ⟨fun ⟨readable, junk, backslash, indents, passes⟩ =>
        ⟨readable, junk, backslash, indents, passes⟩,
      fun h => ⟨h.readable, h.no_junk, h.no_backslash, h.indents, h.passes⟩⟩

theorem Orderly.indent {source : Text} (h : Orderly source) {before after : List Token} {t : Token}
    (htokens : (scan source).tokens = before ++ t :: after) (hkind : t.kind = .indent) :
    endsInColon before = true := by
  have hlen : before.length < (scan source).tokens.length := by simp [htokens]
  have := h.indents ⟨before.length, hlen⟩
  simpa [htokens, hkind] using this

theorem Orderly.pass {source : Text} (h : Orderly source) {before after : List Token}
    {t next : Token} (htokens : (scan source).tokens = before ++ t :: next :: after)
    (hpass : isPass t = true) : next.kind = .newline := by
  have hchain := h.passes
  rw [htokens, List.isChain_append_cons_cons] at hchain
  exact hchain.2.1 hpass

theorem Orderly.line_no_backslash {source l : Text} (h : Orderly source) (hl : l ∈ lines source) :
    '\\' ∉ l := by
  intro hmem
  refine h.no_backslash ?_
  rw [← lines_flatten source]
  exact List.mem_flatten.mpr ⟨l, hl, hmem⟩

/-- A place in a source: the lines before it, and the state in which the reader comes to it. -/
structure Place (source : Text) (done : List Text) (line : Text) (rest : List Text)
    (tokens : List Token) (s : State) : Prop where
  lines_eq : lines source = done ++ line :: rest
  reach_eq : reach {} 1 done = some (tokens, s)

namespace Place

variable {source : Text} {done : List Text} {line : Text} {rest : List Text} {tokens : List Token}
  {s : State}

theorem scan_eq (p : Place source done line rest tokens s) :
    scan source =
      ⟨tokens ++ (scanLines s (1 + done.length) (done.getLastD []) (line :: rest)).tokens,
        (scanLines s (1 + done.length) (done.getLastD []) (line :: rest)).error⟩ := by
  rw [scan, p.lines_eq, scanLines_of_reach p.reach_eq]

theorem lined (p : Place source done line rest tokens s) : Lined (line :: rest) := by
  have hlined := lined_lines source
  rw [p.lines_eq] at hlined
  exact hlined.sublist (List.sublist_append_right _ _)

theorem sane (p : Place source done line rest tokens s) (h : Orderly source) : Sane s :=
  sane_initial.reach (fun _ hl => h.line_no_backslash (by simp [p.lines_eq, hl])) p.reach_eq

end Place

theorem openings_layout {s : State} {row : Nat} {line : Text} {t : Token}
    (h : t ∈ openings s row line) : isLayout t.kind = true := by
  rw [openings] at h
  split at h
  · rw [blockTokens] at h
    split at h
    · rw [List.mem_singleton.mp h]
      rfl
    · rw [List.eq_of_mem_replicate h]
      rfl
  · simp at h

/-- The only name on the line of a `pass` is the `pass`. -/
theorem name_unique {s : State} {row : Nat} {line : Text} {pre post ends : List Token}
    {t name : Token} (h : pre ++ t :: post = openings s row line ++ name :: ends)
    (hkind : t.kind = .name)
    (hends : ends = [] ∧ '\n' ∉ line ∨
      ∃ text, ends = [⟨if s.depth > 0 then .lineEnd else .newline, text, row, line⟩]) :
    pre = openings s row line ∧ t = name ∧ post = ends := by
  rcases append_eq_append_cons h.symm with ⟨post', hopenings, -⟩ | ⟨pre', rfl, hrest⟩
  · have hlayout := openings_layout (t := t) (by rw [hopenings]; simp)
    simp [hkind, isLayout] at hlayout
  · cases pre' with
    | nil =>
      obtain ⟨rfl, rfl⟩ := List.cons.inj hrest
      exact ⟨by simp, rfl, rfl⟩
    | cons x pre' =>
      have hmem : t ∈ ends := by
        rw [List.cons_append] at hrest
        rw [(List.cons.inj hrest).2]
        simp
      rcases hends with ⟨rfl, -⟩ | ⟨text, rfl⟩
      · simp at hmem
      · rw [List.mem_singleton.mp hmem] at hkind
        dsimp only at hkind
        split at hkind <;> simp at hkind

/-- No bracket is open at the end of a `pass`: the end of its line ends a statement, and if there is
none, the source ends there. -/
theorem Place.depth_le {source : Text} {done rest : List Text} {line : Text}
    {tokens : List Token} {s : State} (p : Place source done line rest tokens s)
    (h : Orderly source) (hnone : s.pending = none) {before found ends others : List Token}
    {t : Token} {row : Nat} (htokens : (scan source).tokens = before ++ t :: (ends ++ others))
    (hpass : isPass t = true)
    (hstep : step s (1 + done.length) line = .more found (withBlocks s line))
    (hends : ends = [] ∧ '\n' ∉ line ∨
      ∃ text, ends = [⟨if s.depth > 0 then .lineEnd else .newline, text, row, line⟩]) :
    s.depth ≤ 0 := by
  by_contra hinside
  rw [if_pos (by omega)] at hends
  rcases hends with ⟨-, hnot⟩ | ⟨text, rfl⟩
  · -- A last line without an end would leave the bracket open.
    have hrest : rest = [] := by
      by_contra hne
      obtain ⟨l, ls, rfl⟩ := List.exists_cons_of_ne_nil hne
      exact hnot (List.mem_of_getLast? p.lined.head_ended)
    have herror := h.readable
    have hne : s.depth ≠ 0 := by omega
    rw [p.scan_eq, hrest] at herror
    simp [scanLines, hstep, withBlocks, hnone, hne] at herror
  · have hnext := h.pass (htokens.trans rfl) hpass
    simp at hnext

/-- The line of a `pass` token is read as a margin, the token and the end of the line. -/
theorem step_of_isPass {source : Text} (h : Orderly source) {done rest : List Text} {line : Text}
    {tokens : List Token} {s : State} (p : Place source done line rest tokens s)
    {before after : List Token} {t : Token} (htokens : (scan source).tokens = before ++ t :: after)
    (hpass : isPass t = true) (hrow : t.row = 1 + done.length) :
    trim line = passWord ∧ (∃ b, content line = passWord ++ b) ∧ s.pending = none ∧ s.depth ≤ 0 ∧
    t = ⟨.name, passWord, t.row, line⟩ ∧ before = tokens ++ openings s t.row line ∧ ∃ ends,
      after = ends ++ (scanLines (withBlocks s line) (t.row + 1) line rest).tokens ∧
      step s t.row line = .more (openings s t.row line ++ t :: ends) (withBlocks s line) ∧
      (ends = [] ∧ '\n' ∉ line ∨ ∃ text, ends = [⟨.newline, text, t.row, line⟩]) := by
  obtain ⟨hkind, htrim⟩ := isPass_iff.mp hpass
  obtain ⟨done', rest', tokens', s', pre, post, next, hlines, hrow', hreach, hstep, hbefore,
    hafter⟩ := name_origin htokens hkind
  -- Only one line has the number of the row, so it is the line of the token.
  obtain ⟨rfl, hrest⟩ : done' = done ∧ t.line :: rest' = line :: rest :=
    List.append_inj (hlines.symm.trans p.lines_eq) (by omega)
  obtain ⟨hline, rfl⟩ := List.cons.inj hrest
  obtain ⟨rfl, rfl⟩ := Prod.mk.inj (Option.some.inj (hreach.symm.trans p.reach_eq))
  rw [hline] at htrim hstep hafter
  have hjunk : ∀ x ∈ pre ++ t :: post, x.kind ≠ .junk := by
    intro x hx
    refine h.no_junk x ?_
    rw [htokens, hbefore, hafter]
    simp only [List.mem_append, List.mem_cons] at hx ⊢
    tauto
  obtain ⟨hnone, rfl, hbody, ends, hsplit, hends⟩ := step_pass (p.sane h) hstep htrim
    (p.lined.line line (by simp)).newline_last hjunk ⟨t, by simp, hkind⟩
  obtain ⟨rfl, ht, rfl⟩ := name_unique hsplit hkind hends
  have hdepth : s'.depth ≤ 0 := by
    rw [hafter] at htokens
    exact p.depth_le h hnone htokens hpass (by rw [← hrow]; exact hstep) hends
  rw [if_neg (by omega)] at hends
  exact ⟨htrim, hbody, hnone, hdepth, ht, hbefore, post, hafter, hstep, hends⟩

/-- Where the margin ends in a visible character it is the indentation. -/
theorem indentation_eq_margin {line body : Text} {d : Char} (h : content line = d :: body)
    (hd : isBlank d = false) (more : Text) : indentation (line ++ more) = margin line := by
  have hsplit : line ++ more = margin line ++ d :: (body ++ more) := by
    conv_lhs => rw [← margin_append_content line, h]
    simp
  have hvisible : (trim (line ++ more)).isEmpty = false := by
    rw [List.isEmpty_eq_false_iff, ne_eq, trim_eq_nil_iff]
    intro hall
    simp [hall d (by rw [hsplit]; simp)] at hd
  rw [indentation, hvisible, if_neg (by simp), hsplit,
    List.takeWhile_append_of_pos fun c hc => isBlank_of_mem_margin hc, List.takeWhile_cons, hd]
  simp

/-- In a reading without junk a statement starts with a visible character. -/
theorem visible_head {row : Nat} {line : Text} {depth : Int} (h : HasStatement line)
    (hjunk : ∀ t ∈ (scanLine row line 0 depth (content line)).1, t.kind ≠ .junk) :
    ∃ d body, content line = d :: body ∧ isBlank d = false := by
  obtain ⟨d, hd, -, hr, hn⟩ := h
  obtain ⟨body, hbody⟩ : ∃ body, content line = d :: body := by
    cases hc : content line with
    | nil => simp [hc] at hd
    | cons c cs =>
      rw [hc, List.head?_cons, Option.mem_some_iff] at hd
      exact ⟨cs, by rw [hd]⟩
  refine ⟨d, body, hbody, ?_⟩
  by_contra hblank
  rw [Bool.not_eq_false] at hblank
  have hshape := shape?_blank hblank body
  have hrun : newlineRun (d :: body) = 0 := by
    unfold newlineRun
    split
    · rename_i hcons
      exact absurd (List.cons.inj hcons).1 hn
    · rename_i hcons
      exact absurd (List.cons.inj hcons).1 hr
    · rfl
  rw [hrun, if_neg (by simp), ← hbody] at hshape
  rw [← content_content] at hshape
  obtain ⟨t, ht, hkind⟩ := junk_of_shape?_eq_none row line depth hshape
  exact hjunk t ht hkind

theorem step_of_ready {s : State} (hs : Sane s) (hnone : s.pending = none) (hdepth : s.depth = 0)
    (row : Nat) (line : Text) : step s row line = scanStatement s row line := by
  rw [step, hnone]
  simp [hdepth, hs.joined]

theorem kind_of_isAtom {kind : TokenKind} (h : isAtom kind = true) :
    (kind = .name ∨ kind = .number ∨ kind = .string) ∧ isFiller kind = false ∧
      isLayout kind = false := by
  cases kind <;> simp_all [isAtom, isFiller, isLayout]

/-- The only name, number or string on the line of a `pass` is the `pass`. -/
theorem eq_name_of_atom {s : State} {row : Nat} {line : Text} {ends : List Token} {t name : Token}
    (h : t ∈ openings s row line ++ name :: ends) (hatom : isAtom t.kind = true)
    (hends : ends = [] ∧ '\n' ∉ line ∨
      ∃ text, ends = [⟨if s.depth > 0 then .lineEnd else .newline, text, row, line⟩]) :
    t = name := by
  rw [List.mem_append, List.mem_cons] at h
  rcases h with h | rfl | h
  · have hlayout := openings_layout h
    rw [(kind_of_isAtom hatom).2.2] at hlayout
    simp at hlayout
  · rfl
  · rcases hends with ⟨rfl, -⟩ | ⟨text, rfl⟩
    · simp at h
    · rw [List.mem_singleton.mp h] at hatom
      dsimp only at hatom
      split at hatom <;> simp [isAtom] at hatom

section NextLine

variable {s next : State} {line : Text} {rest : List Text} {tokens : List Token} {t : Token}

/-- What is found only after the line it starts on is a string that is open there. -/
theorem exists_pending_of_later (hatom : isAtom t.kind = true)
    (ht : t ∈ (scanLines s (t.row + 1) line rest).tokens) :
    ∃ o, s.pending = some o ∧ o.line <+: t.line := by
  rcases atom_row ht (kind_of_isAtom hatom).1 with hrow | ⟨o, ho, -, hline⟩
  · omega
  · exact ⟨o, ho, hline⟩

/-- A name, number or string of a row carries the line of that row, and more only if it is a string
that goes on. -/
theorem line_prefix_of_atom (hnone : s.pending = none) (hatom : isAtom t.kind = true)
    (hstep : step s t.row line = .more tokens next)
    (ht : t ∈ tokens ++ (scanLines next (t.row + 1) line rest).tokens) : line <+: t.line := by
  rcases List.mem_append.mp ht with ht | ht
  · rcases step_tokens hstep t ht with ⟨-, hline⟩ | ⟨o, ho, -⟩
    · rw [hline]
    · simp [hnone] at ho
  · obtain ⟨o, ho, hline⟩ := exists_pending_of_later hatom ht
    rcases step_pending hstep o ho with ⟨-, hline', -⟩ | ⟨o', ho', -⟩
    · rwa [hline'] at hline
    · simp [hnone] at ho'

/-- The row of a `pass` alone on its line has no other name, number or string. -/
theorem isPass_of_atom (hs : Sane s) (hdepth : s.depth = 0) (hatom : isAtom t.kind = true)
    (hstep : step s t.row line = .more tokens next) (hpass : trim line = passWord)
    (hline : '\n' ∉ line.dropLast) (hjunk : ∀ x ∈ tokens, x.kind ≠ .junk)
    (hname : ∃ x ∈ tokens, x.kind = .name)
    (ht : t ∈ tokens ++ (scanLines next (t.row + 1) line rest).tokens) : isPass t = true := by
  obtain ⟨hnone, rfl, -, ends, rfl, hends⟩ := step_pass hs hstep hpass hline hjunk hname
  rcases List.mem_append.mp ht with ht | ht
  · rw [eq_name_of_atom ht hatom hends]
    simp [isPass, hpass, passWord]
  · -- No string is open after the line.
    obtain ⟨o, ho, -⟩ := exists_pending_of_later hatom ht
    simp [withBlocks, hdepth, hnone] at ho

end NextLine

/-- Between statements, a name, number or string on the next line is part of a statement there, and
the line is no `pass` unless the token is. -/
theorem next_statement {s : State} (hs : Sane s) (hnone : s.pending = none) (hdepth : s.depth = 0)
    {last : Text} {ls : List Text} (hlined : Lined ls) {t : Token}
    (hjunk : ∀ x ∈ (scanLines s t.row last ls).tokens, x.kind ≠ .junk)
    (ht : t ∈ (scanLines s t.row last ls).tokens) (hatom : isAtom t.kind = true)
    (hnot : isPass t = false) :
    ∃ next rest, ls = next :: rest ∧ HasStatement next ∧ indentation t.line = margin next ∧
      trim next ≠ passWord := by
  obtain ⟨hkind, hfiller, -⟩ := kind_of_isAtom hatom
  have hfinish : ∀ row, t ∉ finish s row last := by
    intro row hmem
    rcases hkind with hkind | hkind | hkind <;> simpa [hkind] using finish_kinds hmem
  cases ls with
  | nil =>
    rw [scanLines, hnone] at ht
    simp only [Option.isSome_none, Bool.false_eq_true, if_false] at ht
    split at ht
    · exact absurd ht (hfinish _)
    · simp at ht
  | cons next rest =>
    refine ⟨next, rest, rfl, ?_⟩
    rw [scanLines, step_of_ready hs hnone hdepth] at ht hjunk
    rcases scanStatement_cases s t.row next with
      ⟨-, hstop⟩ | ⟨-, -, filler, hmore, hfill⟩ | ⟨hstatement, hmore⟩
    · rw [hstop] at ht
      exact absurd ht (hfinish _)
    · -- A line without a statement has no such token, and after it the rows are larger.
      rw [hmore] at ht
      rcases List.mem_append.mp ht with ht | ht
      · simp [hfill t ht] at hfiller
      · obtain ⟨o, ho, -⟩ := exists_pending_of_later hatom ht
        simp [hnone] at ho
    · refine ⟨hstatement, ?_⟩
      rw [hmore] at ht hjunk
      by_cases hfail : column next < innermost s.columns ∧ column next ∉ s.columns
      · simp [hfail] at ht
      · rw [if_neg hfail] at hmore ht hjunk
        have hstep := (step_of_ready hs hnone hdepth t.row next).trans hmore
        have hvisible : ∀ x ∈ (scanLine t.row next 0 s.depth (content next)).1, x.kind ≠ .junk :=
          fun x hx => hjunk x (by simp [hx])
        constructor
        · obtain ⟨d, body, hbody, hd⟩ := visible_head hstatement hvisible
          obtain ⟨more, hline⟩ := line_prefix_of_atom hnone hatom hstep ht
          rw [← hline, indentation_eq_margin hbody hd]
        · intro hpass
          have hlast := (hlined.line next (by simp)).newline_last
          obtain ⟨ends, hname, -⟩ := scanLine_pass t.row next s.depth
            ((trim_content next).trans hpass) (newline_not_mem_suffix hlast (content_suffix next))
            hvisible
          rw [isPass_of_atom hs hdepth hatom hstep hpass hlast
            (fun x hx => hjunk x (List.mem_append_left _ hx))
            ⟨⟨.name, passWord, t.row, next⟩, by simp [hname], rfl⟩ ht] at hnot
          contradiction

/-- A `pass` that can go: it is a whole logical line, and either it opens no block, or the next line
is another statement in the block that it opens. -/
structure PassRow (s : State) (row : Nat) (line : Text) (rest : List Text) : Prop where
  trim_eq : trim line = passWord
  pending : s.pending = none
  reads : ∃ ends, step s row line =
      .more (openings s row line ++ ⟨.name, passWord, row, line⟩ :: ends) (withBlocks s line) ∧
    (ends = [] ∧ '\n' ∉ line ∨ ∃ text, ends = [⟨.newline, text, row, line⟩])
  useless : (s.depth = 0 → column line ≤ innermost s.columns) ∨
    ∃ next rest', rest = next :: rest' ∧ HasStatement next ∧ margin next = margin line ∧
      trim next ≠ passWord

theorem passRow_of_marked {source : Text} (h : Orderly source) {done rest : List Text}
    {line : Text} {tokens : List Token} {s : State} (p : Place source done line rest tokens s)
    (hmarked : 1 + done.length ∈ rows {} (scan source).tokens) :
    PassRow s (1 + done.length) line rest := by
  have hsane := p.sane h
  rcases marked_cases hmarked with
    ⟨before, t, after, htokens, hpass, hrow, hfirst⟩ |
    ⟨before, q, after, htokens, hpass, hrow, t, ht, htrow, hnot, hatom, hindent⟩
  · obtain ⟨htrim, -, hnone, -, hname, rfl, ends, -, hstep, hends⟩ :=
      step_of_isPass h p htokens hpass hrow
    rw [hname, hrow] at hstep
    rw [hrow] at hends hfirst
    refine ⟨htrim, hnone, ⟨ends, hstep, hends⟩, Or.inl fun hdepth => ?_⟩
    by_contra hopens
    simp [openings, hdepth, blockTokens, show innermost s.columns < column line by omega] at hfirst
  · obtain ⟨htrim, ⟨b, hbody⟩, hnone, -, hname, -, ends, rfl, hstep, hends⟩ :=
      step_of_isPass h p htokens hpass hrow
    have hnext := hsane.step (h.line_no_backslash (by simp [p.lines_eq])) hstep
    rw [hname, hrow] at hstep
    rw [hrow] at hends
    refine ⟨htrim, hnone, ⟨ends, hstep, hends⟩, ?_⟩
    by_cases hstays : s.depth = 0 → column line ≤ innermost s.columns
    · exact Or.inl hstays
    · refine Or.inr ?_
      rw [Classical.not_imp] at hstays
      have hlater : t ∈ (scanLines (withBlocks s line) t.row line rest).tokens := by
        rw [htrow, ← hrow]
        refine (List.mem_append.mp ht).resolve_left fun hmem => ?_
        rcases hends with ⟨rfl, -⟩ | ⟨text, rfl⟩
        · simp at hmem
        · rw [List.mem_singleton.mp hmem] at hatom
          simp [isAtom] at hatom
      obtain ⟨next, rest', rfl, hstatement, hmargin, hother⟩ := next_statement hnext
        (by simpa [withBlocks, hstays.1] using hnone) (by simp [withBlocks, hstays.1])
        p.lined.tail (fun x hx => h.no_junk x (by
          rw [htrow, ← hrow] at hx
          simp [htokens, hx])) hlater hatom hnot
      refine ⟨next, rest', rfl, hstatement, ?_, hother⟩
      have hblank : isBlank 'p' = false := by decide
      have hmargin' := indentation_eq_margin hbody hblank []
      rw [List.append_nil] at hmargin'
      rw [← hmargin, hindent, hname, hmargin']

end Pruner.UselessPass
