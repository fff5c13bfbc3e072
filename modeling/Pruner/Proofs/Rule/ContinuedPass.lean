import Pruner.Proofs.Rule.FlatLines
import Pruner.Proofs.Token.Span

/-!
A `pass` after a line that ends in a backslash. It may be the rest of a statement, and the rule for a
`pass` that does not open its block leaves it alone if the token before it stands on that line. The
rule for a `pass` before another statement looks at the next line only, and so it marks it.
-/
namespace Pruner.Token

open Pruner.Text

/-- Characters that start neither numbers nor strings give neither of them. -/
theorem move_of_ordinary (depth : Int) {c : Char} {cs : Text} (h : ∀ d ∈ c :: cs, IsOrdinary d)
    (hq : Unquoted (c :: cs)) :
    (∃ n, move depth c cs = .skip n) ∨ ∃ kind text n, move depth c cs = .emit kind text depth n ∧
      kind ≠ .number ∧ kind ≠ .string := by
  have hsuffix := List.drop_suffix ((c :: cs).takeWhile isInnerBlank).length (c :: cs)
  rw [move]
  generalize (c :: cs).drop ((c :: cs).takeWhile isInnerBlank).length = body at hsuffix
  cases body with
  | nil => exact Or.inl ⟨_, rfl⟩
  | cons d ds =>
    have hunquoted : Unquoted (d :: ds) := fun e he => hq e (hsuffix.subset he)
    rw [shape?_of_ordinary (h d (hsuffix.subset (by simp))) (stringMarkRun_of_unquoted hunquoted)]
    refine Or.inr ?_
    by_cases hnewline : newlineRun (d :: ds) ≠ 0
    · rw [if_pos hnewline]
      refine ⟨_, _, _, rfl, ?_⟩
      split <;> simp
    · rw [if_neg hnewline]
      by_cases hword : isWord d = true
      · rw [if_pos hword]
        refine ⟨_, _, _, rfl, ?_⟩
        rw [wordKind]
        split <;> simp
      · rw [if_neg hword]
        exact ⟨_, _, _, rfl, by simp, by simp⟩

theorem scanLine_ordinary (row : Nat) (line : Text) (depth : Int) {t : Text}
    (h : ∀ c ∈ t, IsOrdinary c) (hq : Unquoted t) :
    (scanLine row line 0 depth t).2.pending = none ∧
      ∀ token ∈ (scanLine row line 0 depth t).1, token.kind ≠ .number ∧ token.kind ≠ .string := by
  refine line_moves (P := fun _ t tokens ending => (∀ c ∈ t, IsOrdinary c) → Unquoted t →
    ending.pending = none ∧ ∀ token ∈ tokens, token.kind ≠ .number ∧ token.kind ≠ .string)
    ?_ ?_ ?_ ?_ ?_ depth t h hq
  · intro _ _ _
    exact ⟨rfl, by simp⟩
  · intro _ c cs n _ _ _ ih h hq
    exact ih (fun d hd => h d (List.mem_cons_of_mem c (List.mem_of_mem_drop hd)))
      fun d hd => hq d (List.mem_cons_of_mem c (List.mem_of_mem_drop hd))
  · intro depth c cs n _ _ hmove _ h hq
    rcases move_of_ordinary depth h hq with ⟨k, hk⟩ | ⟨kind, text, k, hk, -⟩ <;> simp [hk] at hmove
  · intro depth c cs text triple quote hmove h hq
    rcases move_of_ordinary depth h hq with ⟨k, hk⟩ | ⟨kind, text', k, hk, -⟩ <;> simp [hk] at hmove
  · intro depth c cs kind text depth' n tokens ending hmove ih h hq
    obtain ⟨hnone, htokens⟩ :=
      ih (fun d hd => h d (List.mem_cons_of_mem c (List.mem_of_mem_drop hd)))
        fun d hd => hq d (List.mem_cons_of_mem c (List.mem_of_mem_drop hd))
    have hkind : kind ≠ .number ∧ kind ≠ .string := by
      rcases move_of_ordinary depth h hq with ⟨k, hk⟩ | ⟨kind', text', k, hk, hkind⟩
      · simp [hk] at hmove
      · rw [hk, Move.emit.injEq] at hmove
        rwa [← hmove.1]
    refine ⟨hnone, fun token htoken => ?_⟩
    rcases List.mem_cons.mp htoken with rfl | htoken
    · exact hkind
    · exact htokens token htoken

theorem ordinary_of_trim_eq_pass {t : Text} (h : trim t = passWord) : ∀ c ∈ t, IsOrdinary c := by
  refine forall_of_trim_eq_pass h (fun c hc => ?_) fun c hc => ?_
  · exact ⟨isDigit_of_isBlank hc, not_mem_of_all hc (by decide), not_mem_of_all hc (by decide)⟩
  · have hword : isWord c = true :=
      List.all_eq_true.mp (show passWord.all isWord = true by decide) c hc
    have hdigit : passWord.all (!isDigit ·) = true := by decide
    refine ⟨?_, not_mem_of_all hword (by decide), not_mem_of_all hword (by decide)⟩
    simpa using List.all_eq_true.mp hdigit c hc

/-- A line with nothing but `pass` has no number and no string, and opens none. -/
theorem step_pass_line {s next : State} {row : Nat} {line : Text} {tokens : List Token}
    (hnone : s.pending = none) (hpass : trim line = passWord)
    (h : step s row line = .more tokens next) :
    next.pending = none ∧
      ∀ t ∈ tokens, t.row = row ∧ t.line = line ∧ t.kind ≠ .number ∧ t.kind ≠ .string := by
  have hplace : ∀ t ∈ tokens, t.row = row ∧ t.line = line := by
    intro t ht
    rcases step_tokens h t ht with hplace | ⟨o, ho, -⟩
    · exact hplace
    · simp [hnone] at ho
  have hkinds : next.pending = none ∧ ∀ t ∈ tokens, t.kind ≠ .number ∧ t.kind ≠ .string := by
    rcases step_cases h with ⟨o, ho, -⟩ | ⟨-, -, h⟩ | ⟨-, -, rfl, rfl⟩
    · simp [hnone] at ho
    · rcases scanStatement_cases s row line with
        ⟨-, hstop⟩ | ⟨-, -, filler, hmore, hfiller⟩ | ⟨-, hmore⟩
      · simp [hstop] at h
      · obtain ⟨rfl, rfl⟩ := LineResult.more.inj (hmore.symm.trans h)
        refine ⟨hnone, fun t ht => ?_⟩
        have hfill := (hfiller t ht).1
        constructor <;> intro hkind <;> simp [hkind, isFiller] at hfill
      · rw [hmore] at h
        split at h
        · simp at h
        · obtain ⟨rfl, rfl⟩ := LineResult.more.inj h
          have hcontent := (trim_content line).trans hpass
          obtain ⟨hpending, hscan⟩ := scanLine_ordinary row line s.depth
            (ordinary_of_trim_eq_pass hcontent) (unquoted_of_trim_eq_pass hcontent)
          refine ⟨hpending, fun t ht => ?_⟩
          rcases List.mem_append.mp ht with ht | ht
          · rw [blockTokens] at ht
            split at ht
            · rw [List.mem_singleton.mp ht]
              simp
            · rw [List.eq_of_mem_replicate ht]
              simp
          · exact hscan t ht
    · exact scanLine_ordinary row line s.depth (ordinary_of_trim_eq_pass hpass)
        (unquoted_of_trim_eq_pass hpass)
  exact ⟨hkinds.1, fun t ht => ⟨(hplace t ht).1, (hplace t ht).2, hkinds.2 t ht⟩⟩

end Pruner.Token

namespace Pruner.UselessPass

open Pruner.Text Pruner.Line Pruner.Token

/-- Lines in front of a joined line are joined with it. -/
theorem isJoined_append (front : Text) {line : Text} (h : isJoined line = true) :
    isJoined (front ++ line) = true := by
  rw [isJoined, endsWith, List.isSuffixOf_iff_suffix] at h ⊢
  have hne : trimRight line ≠ [] := by
    intro hnil
    simp [hnil] at h
  have hvisible : ∀ c ∈ (front ++ trimRight line).getLast?, isBlank c = false := by
    rw [List.getLast?_append_of_ne_nil _ hne]
    exact trimRight_last line
  have htrim : trimRight (front ++ line) = front ++ trimRight line := by
    conv_lhs => rw [← trimRight_append_ending line, ← List.append_assoc]
    rw [trimRight_append_of_blank fun _ => isBlank_of_mem_ending, trimRight_eq_self hvisible]
  rw [htrim]
  exact h.trans (List.suffix_append front _)

theorem isJoined_of_pass {line : Text} (h : trim line = passWord) : isJoined line = false := by
  by_contra hjoined
  rw [Bool.not_eq_false] at hjoined
  have hslash : ∀ c ∈ line, c ≠ '\\' := by
    refine forall_of_trim_eq_pass h (fun c hc => ?_) fun c hc => ?_
    · rintro rfl
      simp [isBlank] at hc
    · rintro rfl
      revert hc
      decide
  exact hslash _ (backslash_mem_of_isJoined hjoined) rfl

/-- A string that was open before comes before all other tokens. -/
theorem eq_nil_of_open_string {s : State} {o : OpenString} {row : Nat} {last : Text}
    {ls : List Text} {before after : List Token} {u : Token} (ho : s.pending = some o)
    (h : (scanLines s row last ls).tokens = before ++ u :: after) (hatom : isAtom u.kind = true)
    (hrow : u.row < row) : before = [] := by
  have hkind := (kind_of_isAtom hatom).1
  induction ls generalizing s o row last before with
  | nil =>
    rw [scanLines, ho] at h
    simp at h
  | cons line rest ih =>
    rw [scanLines] at h
    split at h
    · simp at h
    · rename_i hstop
      have hnone := (step_stop hstop).1
      simp [ho] at hnone
    · rename_i tokens next hstep
      -- What follows on later lines is a string that starts here, or not before.
      have hlater (hnew : ∀ o' ∈ next.pending, o'.row = row) {pre : List Token} :
          (scanLines next (row + 1) line rest).tokens ≠ pre ++ u :: after := by
        intro hsplit
        rcases atom_row (by rw [hsplit]; simp) hkind with hat | ⟨o', ho', hat, -⟩
        · omega
        · have := hnew o' ho'
          omega
      rcases step_cases hstep with ⟨o', -, hscan⟩ | ⟨hnone, -⟩ | ⟨hnone, -⟩
      · rcases scanInString_cases hscan with ⟨n, -, rfl, rfl⟩ | ⟨rfl, rfl⟩ | ⟨rfl, rfl⟩
        · rcases append_eq_append_cons h with ⟨post, hhere, -⟩ | ⟨pre, -, hthere⟩
          · cases before with
            | nil => rfl
            | cons first before =>
              have hmem : u ∈ (scanLine row line 0 s.depth (line.drop n)).1 := by
                rw [(List.cons.inj hhere).2]
                simp
              have hat := (scanLine_tokens _ _ u hmem).1
              omega
          · exact absurd hthere (hlater fun o' ho' => (scanLine_pending _ _ o' ho').1)
        · rcases append_eq_append_cons h with ⟨post, hhere, -⟩ | ⟨pre, -, hthere⟩
          · cases before with
            | nil => rfl
            | cons first before => simp at hhere
          · exact absurd hthere (hlater (by simp))
        · exact ih rfl (by simpa using h) (by omega)
      · simp [ho] at hnone
      · simp [ho] at hnone

/-- On its line a name, number or string that is no `pass` has no `pass` before it. -/
theorem no_pass_before {s : State} {row : Nat} {last : Text} {ls : List Text}
    {before after : List Token} {u : Token} (hnone : s.pending = none)
    (h : (scanLines s row last ls).tokens = before ++ u :: after) (hatom : isAtom u.kind = true)
    (hnot : isPass u = false) (hrow : u.row = row) : ∀ q ∈ before, isPass q = false := by
  have hkind := (kind_of_isAtom hatom).1
  have hfinish : ∀ s row last before after, finish s row last ≠ before ++ u :: after := by
    intro s row last before after heq
    have hend := finish_kinds (t := u) (by rw [heq]; simp)
    rcases hkind with hkind | hkind | hkind <;> simp [hkind] at hend
  cases ls with
  | nil =>
    rw [scanLines, hnone] at h
    simp only [Option.isSome_none, Bool.false_eq_true, if_false] at h
    split at h
    · exact absurd h (hfinish _ _ _ _ _)
    · simp at h
  | cons line rest =>
    rw [scanLines] at h
    split at h
    · simp at h
    · exact absurd h (hfinish _ _ _ _ _)
    · rename_i tokens next hstep
      have htrim {q : Token} (hq : q ∈ tokens) (hpass : isPass q = true) :
          trim line = passWord := by
        rcases step_tokens hstep q hq with ⟨-, hplace⟩ | ⟨o, ho, -⟩
        · rw [← hplace]
          exact (isPass_iff.mp hpass).2
        · simp [hnone] at ho
      intro q hq
      by_contra hpass
      rw [Bool.not_eq_false] at hpass
      rcases append_eq_append_cons h with ⟨post, rfl, -⟩ | ⟨pre, rfl, hthere⟩
      · -- Both are on one line, and its only name, number or string is the `pass`.
        have hline := htrim (by simp [hq]) hpass
        obtain ⟨-, hplace, hnumber, hstring⟩ := (step_pass_line hnone hline hstep).2 u (by simp)
        have hname : u.kind = .name := by tauto
        rw [isPass_iff.mpr ⟨hname, hplace ▸ hline⟩] at hnot
        contradiction
      · -- A string starts on the line and ends on a later one.
        rcases atom_row (by rw [hthere]; simp) hkind with hat | ⟨o, ho, -⟩
        · omega
        · obtain rfl := eq_nil_of_open_string ho hthere hatom (by omega)
          have hline := htrim (by simpa using hq) hpass
          rw [(step_pass_line hnone hline hstep).1] at ho
          contradiction

/-- The memory of a `pass` stays as long as no other one comes but on the same line. -/
theorem lastPass_foldl_eq {memory : Memory} {tokens : List Token} {row : Nat} {blanks : Text}
    (hmemory : memory.lastPass = some (row, blanks))
    (h : ∀ q ∈ tokens, isPass q = true → q.row = row ∧ indentation q.line = blanks) :
    (tokens.foldl remember memory).lastPass = some (row, blanks) := by
  induction tokens generalizing memory with
  | nil => exact hmemory
  | cons token tokens ih =>
    refine ih ?_ fun q hq => h q (List.mem_cons_of_mem token hq)
    rw [remember]
    dsimp only
    split
    · rename_i hpass
      obtain ⟨hrow, hblanks⟩ := h token (by simp) hpass
      rw [hrow, hblanks]
    · exact hmemory

/-- A `pass` does not open its block exactly if the token before it opens none, on a line that is
not joined. -/
theorem notFirst_foldl_iff {before : List Token} {t : Token} :
    notFirst (before.foldl remember {}) t = true ↔
      isPass t = true ∧ ∀ p ∈ before.getLast?, p.kind ≠ .indent ∧ isJoined p.line = false := by
  cases before using List.reverseRecOn with
  | nil => simp [notFirst, isJoined, trimRight, endsWith]
  | append_singleton before p => simp [notFirst, List.foldl_append, remember, and_assoc]

/-- Where a `pass` is read: on a line of its own, after tokens on that line or on runs of the lines
before, and before others on the line or on later ones. -/
structure PassAt (ls : List Text) (before : List Token) (pass : Token) (after : List Token)
    (done rest : List Text) : Prop where
  lines_eq : ls = done ++ pass.line :: rest
  row_eq : pass.row = done.length + 1
  previous : ∀ p ∈ before.getLast?, (p.row = pass.row ∧ p.line = pass.line) ∨
    ∃ last, IsRun done p.row last p.line
  later : ∃ post next, after = post ++ (scanLines next (pass.row + 1) pass.line rest).tokens ∧
    next.pending = none ∧ ∀ t ∈ post, t.row = pass.row ∧ t.line = pass.line

theorem exists_passAt {ls : List Text} {before after : List Token} {pass : Token}
    (h : (scanLines {} 1 [] ls).tokens = before ++ pass :: after) (hpass : isPass pass = true) :
    ∃ done rest, PassAt ls before pass after done rest := by
  obtain ⟨hkind, htrim⟩ := isPass_iff.mp hpass
  obtain ⟨done, rest, tokens, s, pre, post, next, hls, hrow, hreach, hstep, rfl, hafter⟩ :=
    name_origin h hkind
  obtain ⟨hruns, hheld⟩ := reach_runs hreach
  have hnone := pending_eq_none_of_pass (fun o ho => (hheld o ho).quote) hstep htrim
    ⟨pass, by simp, hkind⟩
  obtain ⟨hnext, htokens⟩ := step_pass_line hnone htrim hstep
  refine ⟨done, rest, hls, by omega, fun p hp => ?_, post, next, hafter, hnext, fun t ht => ?_⟩
  · by_cases hpre : pre = []
    · rw [hpre, List.append_nil] at hp
      exact Or.inr (hruns p (List.mem_of_getLast? hp))
    · rw [List.getLast?_append_of_ne_nil _ hpre] at hp
      have hplace := htokens p (List.mem_append_left _ (List.mem_of_getLast? hp))
      exact Or.inl ⟨hplace.1, hplace.2.1⟩
  · have hplace := htokens t (by simp [ht])
    exact ⟨hplace.1, hplace.2.1⟩

namespace PassAt

variable {ls : List Text} {before after : List Token} {pass : Token} {done rest : List Text}

/-- The token before a `pass` stands on its line, or ends on the line before and so is joined if that
is, or ends further up. -/
theorem previous_cases {prev : Text} (h : PassAt ls before pass after (done ++ [prev]) rest)
    (hlined : Lined ls) (hpass : isPass pass = true) (hjoined : isJoined prev = true) {p : Token}
    (hp : p ∈ before.getLast?) :
    (lastRow p = pass.row ∧ isJoined p.line = false) ∨
      (lastRow p = done.length + 1 ∧ isJoined p.line = true) ∨ lastRow p ≤ done.length := by
  rw [h.lines_eq] at hlined
  rcases h.previous p hp with ⟨hrow, hline⟩ | ⟨last, hrun⟩
  · refine Or.inl ⟨?_, by rw [hline]; exact isJoined_of_pass (isPass_iff.mp hpass).2⟩
    rw [lastRow, hline, (hlined.line pass.line (by simp)).lines_eq, hrow]
    rfl
  · refine Or.inr ?_
    have hlast := hrun.lastRow_eq (hlined.sublist (List.sublist_append_left _ _))
    have hle := hrun.le_length
    rw [List.length_append, List.length_singleton] at hle
    by_cases hend : last = done.length + 1
    · subst hend
      obtain ⟨front, hfront⟩ := hrun.exists_front
      exact Or.inl ⟨hlast, by rw [hfront]; exact isJoined_append front hjoined⟩
    · exact Or.inr (by omega)

/-- A name, number or string on the next line with the indentation of a `pass` marks it. -/
theorem marked_of_next (h : PassAt ls before pass after done rest) (hpass : isPass pass = true)
    {u : Token} (hu : u ∈ after) (hrow : u.row = pass.row + 1) (hatom : isAtom u.kind = true)
    (hnot : isPass u = false) (hindent : indentation u.line = indentation pass.line) :
    pass.row ∈ rows {} (before ++ pass :: after) := by
  obtain ⟨post, next, rfl, hnone, hpost⟩ := h.later
  rcases List.mem_append.mp hu with hu | hu
  · have := (hpost u hu).1
    omega
  obtain ⟨mid, tail, hsplit⟩ := List.append_of_mem hu
  have hmid := no_pass_before hnone hsplit hatom hnot hrow
  have hmemory : ((post ++ mid).foldl remember
      (remember (before.foldl remember {}) pass)).lastPass =
        some (pass.row, indentation pass.line) := by
    refine lastPass_foldl_eq (by simp [remember, hpass]) fun q hq hq' => ?_
    rcases List.mem_append.mp hq with hq | hq
    · rw [(hpost q hq).1, (hpost q hq).2]
      exact ⟨rfl, rfl⟩
    · simp [hmid q hq] at hq'
  have hafter : afterPass ((before ++ pass :: (post ++ mid)).foldl remember {}) u = true := by
    rw [List.foldl_append, List.foldl_cons, afterPass, hmemory]
    simp [hnot, hatom, hrow, hindent]
  have hassoc : before ++ pass :: (post ++ (mid ++ u :: tail)) =
      (before ++ pass :: (post ++ mid)) ++ u :: tail := by simp
  rw [hsplit, hassoc, rows_append, rows, if_pos hafter]
  simp [hrow]

end PassAt

/-- When a `pass` after a line that ends in a backslash is marked: if a name, number or string on the
next line has its indentation, or if the token before it opens no block and stands on the same line,
or on lines further up that do not end in a backslash. -/
theorem continued_pass_marked_iff {source : Text} {done rest : List Text} {prev line : Text}
    (hlines : lines source = done ++ prev :: line :: rest) (hjoined : isJoined prev = true) :
    done.length + 2 ∈ (rowsOf source).1 ↔
      ∃ before pass after, (scan source).tokens = before ++ pass :: after ∧ isPass pass = true ∧
        pass.row = done.length + 2 ∧
        ((∃ u ∈ after, u.row = pass.row + 1 ∧ isAtom u.kind = true ∧ isPass u = false ∧
            indentation u.line = indentation pass.line) ∨
          ∀ p ∈ before.getLast?, p.kind ≠ .indent ∧
            (lastRow p = pass.row ∨ lastRow p ≤ done.length ∧ isJoined p.line = false)) := by
  have hplace {before after : List Token} {pass : Token}
      (htokens : (scan source).tokens = before ++ pass :: after) (hpass : isPass pass = true)
      (hrow : pass.row = done.length + 2) :
      PassAt (lines source) before pass after (done ++ [prev]) rest := by
    obtain ⟨done', rest', h⟩ := exists_passAt htokens hpass
    have hsame : (done ++ [prev]) ++ line :: rest = done' ++ pass.line :: rest' := by
      rw [← h.lines_eq, hlines]
      simp
    have hlength : (done ++ [prev]).length = done'.length := by
      have := h.row_eq
      simp only [List.length_append, List.length_singleton]
      omega
    obtain ⟨rfl, hrest⟩ := List.append_inj hsame hlength
    rwa [(List.cons.inj hrest).2]
  constructor
  · intro h
    obtain ⟨before, t, after, htokens, ⟨hafter, hrow⟩ | ⟨hfirst, hrow⟩⟩ := mem_rows h
    · obtain ⟨early, q, late, rfl, hpass, hnext, hnot, hatom, hindent⟩ := exists_of_afterPass hafter
      refine ⟨early, q, late ++ t :: after, by simpa using htokens, hpass, by omega, Or.inl ?_⟩
      exact ⟨t, by simp, hnext, hatom, hnot, hindent⟩
    · obtain ⟨hpass, hprevious⟩ := notFirst_foldl_iff.mp hfirst
      refine ⟨before, t, after, htokens, hpass, hrow.symm, Or.inr fun p hp => ?_⟩
      obtain ⟨hkind, hnot⟩ := hprevious p hp
      refine ⟨hkind, ?_⟩
      rcases (hplace htokens hpass hrow.symm).previous_cases (lined_lines source) hpass hjoined hp
        with ⟨hsame, -⟩ | ⟨-, hyes⟩ | habove
      · exact Or.inl hsame
      · simp [hnot] at hyes
      · exact Or.inr ⟨habove, hnot⟩
  · rintro ⟨before, pass, after, htokens, hpass, hrow, ⟨u, hu, hnext, hatom, hnot, hindent⟩ | hprevious⟩
    · have hmarked := (hplace htokens hpass hrow).marked_of_next hpass hu hnext hatom hnot hindent
      rwa [← htokens, hrow] at hmarked
    · have hfirst : notFirst (before.foldl remember {}) pass = true := by
        refine notFirst_foldl_iff.mpr ⟨hpass, fun p hp => ?_⟩
        obtain ⟨hkind, hwhere⟩ := hprevious p hp
        refine ⟨hkind, ?_⟩
        rcases (hplace htokens hpass hrow).previous_cases (lined_lines source) hpass hjoined hp
          with ⟨-, hno⟩ | ⟨hat, -⟩ | habove
        · exact hno
        · -- On the joined line itself the token would be left alone.
          rcases hwhere with hsame | ⟨hless, -⟩ <;> omega
        · rcases hwhere with hsame | ⟨-, hno⟩
          · omega
          · exact hno
      have hmarked : pass.row ∈ rows {} (before ++ pass :: after) := mem_rows_of_notFirst hfirst
      rwa [← htokens, hrow] at hmarked

/-- A statement that a `pass` on the next line completes, and another statement. -/
def continuedPass : Text := "if a: \\\npass\nb()\n".toList

/-- The `pass` goes, and the next statement takes its place. -/
theorem next_statement_pulled_in :
    lines continuedPass = ["if a: \\\n".toList, "pass\n".toList, "b()\n".toList] ∧
    isJoined "if a: \\\n".toList = true ∧ (rowsOf continuedPass).2 = none ∧
    2 ∈ (rowsOf continuedPass).1 ∧ filter continuedPass = "if a: \\\nb()\n".toList := by
  have hlines : lines continuedPass =
      [] ++ "if a: \\\n".toList :: "pass\n".toList :: ["b()\n".toList] := by decide
  have hjoined : isJoined "if a: \\\n".toList = true := by decide
  have htokens : (scan continuedPass).tokens =
      [⟨.name, "if".toList, 1, "if a: \\\n".toList⟩, ⟨.name, "a".toList, 1, "if a: \\\n".toList⟩,
        ⟨.op, ":".toList, 1, "if a: \\\n".toList⟩] ++
      ⟨.name, passWord, 2, "pass\n".toList⟩ ::
      [⟨.newline, "\n".toList, 2, "pass\n".toList⟩, ⟨.name, "b".toList, 3, "b()\n".toList⟩,
        ⟨.op, "(".toList, 3, "b()\n".toList⟩, ⟨.op, ")".toList, 3, "b()\n".toList⟩,
        ⟨.newline, "\n".toList, 3, "b()\n".toList⟩, ⟨.endMarker, [], 4, []⟩] := by decide +kernel
  refine ⟨hlines, hjoined, by decide +kernel, ?_, by decide +kernel⟩
  refine (continued_pass_marked_iff hlines hjoined).mpr ⟨_, _, _, htokens, by decide, rfl, Or.inl ?_⟩
  exact ⟨⟨.name, "b".toList, 3, "b()\n".toList⟩, by simp, rfl, rfl, by decide, by decide⟩

end Pruner.UselessPass
