import Pruner.Proofs.Token.Invariant
import Pruner.Proofs.Token.Shape
import Pruner.Proofs.Text.Clauses
import Pruner.Proofs.Text.Lines

namespace Pruner.Token

open Pruner.Text

/-- The kind of the token of a simple piece, and the bracket depth after it. -/
def simpleToken? (depth : Int) (text : Text) : Shape → Option (TokenKind × Int)
  | .word => some (wordKind text, depth)
  | .newline => some (if depth > 0 then .lineEnd else .newline, depth)
  | .op => some (.op, depthAfter depth text)
  | _ => none

theorem drop_content (c : Char) (cs : Text) {n : Nat} (hn : 0 < n) :
    cs.drop (((c :: cs).takeWhile isInnerBlank).length + n - 1) = (content (c :: cs)).drop n := by
  obtain ⟨n, rfl⟩ : ∃ m, n = m + 1 := ⟨n - 1, by omega⟩
  rw [← Nat.add_assoc, Nat.add_sub_cancel, content, ← drop_length_takeWhile, List.drop_drop,
    ← Nat.add_assoc, List.drop_succ_cons]

theorem scanLine_of_content_nil (row : Nat) (line : Text) (depth : Int) {t : Text}
    (h : content t = []) : scanLine row line 0 depth t = ([], ⟨depth, false, none⟩) := by
  cases t with
  | nil => rfl
  | cons c cs =>
    have hbody : (c :: cs).drop ((c :: cs).takeWhile isInnerBlank).length = [] :=
      (drop_length_takeWhile ..).trans h
    have hlen : ((c :: cs).takeWhile isInnerBlank).length = (c :: cs).length := by
      have hsplit := congrArg List.length (margin_append_content (c :: cs))
      rwa [h, List.append_nil] at hsplit
    rw [scanLine_cons, move]
    simp only [hbody, shape?]
    rw [hlen, List.length_cons, Nat.add_zero, Nat.add_sub_cancel, List.drop_length, scanLine_nil]

/-- A simple piece gives its token, and reading goes on behind it. -/
theorem scanLine_piece (row : Nat) (line : Text) (depth : Int) {depth' : Int} {t : Text}
    {shape : Shape} {n : Nat} {kind : TokenKind} (h : shape? (content t) = some (shape, n)) (hn : 0 < n)
    (hkind : simpleToken? depth ((content t).take n) shape = some (kind, depth')) :
    scanLine row line 0 depth t =
      (⟨kind, (content t).take n, row, line⟩ ::
          (scanLine row line 0 depth' ((content t).drop n)).1,
        (scanLine row line 0 depth' ((content t).drop n)).2) := by
  cases t with
  | nil =>
    have hfinish : shape? [] = some (.finish, 0) := rfl
    rw [content, List.dropWhile_nil, hfinish] at h
    obtain ⟨-, rfl⟩ := Prod.mk.inj (Option.some.inj h)
    omega
  | cons c cs =>
    have hbody : (c :: cs).drop ((c :: cs).takeWhile isInnerBlank).length = content (c :: cs) :=
      drop_length_takeWhile ..
    rw [scanLine_cons, move]
    simp only [hbody, h]
    cases shape <;> simp only [simpleToken?, Option.some.injEq, Prod.mk.injEq, reduceCtorEq] at hkind
      <;> obtain ⟨rfl, rfl⟩ := hkind <;> simp only [drop_content c cs hn]

/-- A text whose first piece has no shape gives junk. -/
theorem junk_of_shape?_eq_none (row : Nat) (line : Text) (depth : Int) {t : Text}
    (h : shape? (content t) = none) :
    ∃ token ∈ (scanLine row line 0 depth t).1, token.kind = .junk := by
  cases t with
  | nil => simp [content, shape?] at h
  | cons c cs =>
    have hbody : (c :: cs).drop ((c :: cs).takeWhile isInnerBlank).length = content (c :: cs) :=
      drop_length_takeWhile ..
    rw [scanLine_cons, move]
    simp only [hbody, h]
    exact ⟨_, List.mem_cons_self, rfl⟩

theorem isBlank_of_mem_margin {line : Text} {c : Char} (h : c ∈ margin line) : isBlank c = true :=
  isBlank_of_isInnerBlank (List.mem_takeWhile_imp h)

theorem trim_content (line : Text) : trim (content line) = trim line := by
  conv_rhs => rw [← margin_append_content line]
  rw [trim_append_left fun c => isBlank_of_mem_margin]

theorem content_suffix (t : Text) : content t <:+ t :=
  ⟨margin t, margin_append_content t⟩

theorem newline_not_mem_of_content {t : Text} (h : '\n' ∉ content t) : '\n' ∉ t := by
  rw [← margin_append_content t, List.mem_append, not_or]
  refine ⟨fun hmem => ?_, h⟩
  have := List.mem_takeWhile_imp hmem
  simp [isInnerBlank] at this

theorem newline_not_mem_suffix {t u : Text} (h : '\n' ∉ t.dropLast) (hu : u <:+ t) :
    '\n' ∉ u.dropLast := by
  obtain ⟨a, rfl⟩ := hu
  cases u with
  | nil => simp
  | cons c cs =>
    rw [List.dropLast_append_of_ne_nil (by simp)] at h
    exact fun hmem => h (List.mem_append_right a hmem)

/-- A line end is the last thing on its line. -/
theorem drop_newlineRun {t : Text} (h : '\n' ∉ t.dropLast) (hn : newlineRun t ≠ 0) :
    t.drop (newlineRun t) = [] := by
  unfold newlineRun at hn ⊢
  split
  · rename_i rest
    cases rest with
    | nil => rfl
    | cons c cs => simp at h
  · rename_i rest
    cases rest with
    | nil => rfl
    | cons c cs => simp at h
  · simp_all

/-- Blanks at the end of a line give at most the token of its end. -/
theorem scanLine_blank (row : Nat) (line : Text) (depth : Int) {b : Text}
    (hb : ∀ c ∈ b, isBlank c = true) (hline : '\n' ∉ b.dropLast)
    (hjunk : ∀ token ∈ (scanLine row line 0 depth b).1, token.kind ≠ .junk) :
    ∃ ends, scanLine row line 0 depth b = (ends, ⟨depth, false, none⟩) ∧
      (ends = [] ∧ '\n' ∉ b ∨
        ∃ text, ends = [⟨if depth > 0 then .lineEnd else .newline, text, row, line⟩]) := by
  have hmem : ∀ c ∈ content b, isBlank c = true := fun c hc => hb c ((content_suffix b).subset hc)
  have hlast := newline_not_mem_suffix hline (content_suffix b)
  cases hbody : content b with
  | nil =>
    exact ⟨[], scanLine_of_content_nil row line depth hbody,
      Or.inl ⟨rfl, newline_not_mem_of_content (by simp [hbody])⟩⟩
  | cons d ds =>
    rw [hbody] at hmem hlast
    have hshape := shape?_blank (hmem d (by simp)) ds
    rw [← hbody] at hshape hlast
    by_cases hrun : newlineRun (content b) = 0
    · rw [hrun, if_neg (by simp)] at hshape
      obtain ⟨token, htoken, hkind⟩ := junk_of_shape?_eq_none row line depth hshape
      exact absurd hkind (hjunk token htoken)
    · rw [if_pos hrun] at hshape
      refine ⟨_, ?_, Or.inr ⟨(content b).take (newlineRun (content b)), rfl⟩⟩
      rw [scanLine_piece row line depth hshape (by omega) rfl, drop_newlineRun hlast hrun]
      rfl

/-- The word of a statement that does nothing. -/
def passWord : Text := "pass".toList

theorem isQuote_of_isBlank {c : Char} (h : isBlank c = true) : isQuote c = false := by
  have hnot : c ∉ "'\"".toList := not_mem_of_all h (by decide)
  simpa [isQuote] using hnot

/-- What holds of blanks and of the letters of `pass` holds all over the line. -/
theorem forall_of_trim_eq_pass {P : Char → Prop} {t : Text} (h : trim t = passWord)
    (hblank : ∀ c, isBlank c = true → P c) (hletters : ∀ c ∈ passWord, P c) : ∀ c ∈ t, P c := by
  obtain ⟨a, b, ha, hb, hsplit⟩ := exists_trim t
  rw [h] at hsplit
  intro c hc
  rw [hsplit, List.mem_append, List.mem_append] at hc
  rcases hc with (hc | hc) | hc
  · exact hblank c (ha c hc)
  · exact hletters c hc
  · exact hblank c (hb c hc)

theorem unquoted_of_trim_eq_pass {t : Text} (h : trim t = passWord) : Unquoted t := by
  have hletters : passWord.all (!isQuote ·) = true := by decide
  refine forall_of_trim_eq_pass h (fun c => isQuote_of_isBlank) fun c hc => ?_
  simpa using List.all_eq_true.mp hletters c hc

theorem newlineRun_le (t : Text) : newlineRun t ≤ 2 := by
  unfold newlineRun
  split <;> omega

/-- Without junk only a margin stands before the word. -/
theorem content_of_pass (row : Nat) (line : Text) (depth : Int) {t : Text}
    (hpass : trim t = passWord) (hline : '\n' ∉ t.dropLast)
    (hjunk : ∀ token ∈ (scanLine row line 0 depth t).1, token.kind ≠ .junk) :
    ∃ b, content t = passWord ++ b ∧ ∀ c ∈ b, isBlank c = true := by
  obtain ⟨a, b, ha, hb, hsplit⟩ := exists_trim (content t)
  rw [trim_content, hpass] at hsplit
  cases a with
  | nil => exact ⟨b, hsplit, hb⟩
  | cons d ds =>
    have hlast := newline_not_mem_suffix hline (content_suffix t)
    have hshape := shape?_blank (ha d (by simp)) (ds ++ passWord ++ b)
    have hcons : d :: (ds ++ passWord ++ b) = content t := hsplit.symm
    rw [hcons] at hshape
    by_cases hrun : newlineRun (content t) = 0
    · rw [hrun, if_neg (by simp)] at hshape
      obtain ⟨token, htoken, hkind⟩ := junk_of_shape?_eq_none row line depth hshape
      exact absurd hkind (hjunk token htoken)
    · -- A line end would be the end of the text.
      have hdrop := List.drop_eq_nil_iff.mp (drop_newlineRun hlast hrun)
      have htwo := newlineRun_le (content t)
      have hlen : 4 < (content t).length := by
        have hfour : passWord.length = 4 := rfl
        rw [hsplit, List.length_append, List.length_append, hfour, List.length_cons]
        omega
      omega

theorem takeWhile_isWord_pass {b : Text} (hb : ∀ c ∈ b, isBlank c = true) :
    (passWord ++ b).takeWhile isWord = passWord := by
  have hletters : passWord.all isWord = true := by decide
  rw [List.takeWhile_append_of_pos (List.all_eq_true.mp hletters)]
  cases b with
  | nil => rfl
  | cons c cs =>
    rw [List.takeWhile_cons, isWord_eq_false_of_isBlank (hb c (by simp))]
    rfl

/-- A `pass` and blanks after it are read as a name and what the blanks give. -/
theorem scanLine_passWord (row : Nat) (line : Text) (depth : Int) {t b : Text}
    (hbody : content t = passWord ++ b) (hb : ∀ c ∈ b, isBlank c = true) :
    scanLine row line 0 depth t =
      (⟨.name, passWord, row, line⟩ :: (scanLine row line 0 depth b).1,
        (scanLine row line 0 depth b).2) := by
  have hunquoted : Unquoted (passWord ++ b) := by
    refine unquoted_of_trim_eq_pass ?_
    rw [trim_append_right hb]
    decide
  have hshape : shape? (content t) = some (.word, 4) := by
    rw [hbody]
    have hword : shape? (passWord ++ b) =
        some (.word, ((passWord ++ b).takeWhile isWord).length) :=
      shape?_word (c := 'p') (by decide) (by decide) hunquoted
    rwa [takeWhile_isWord_pass hb] at hword
  have hscan := scanLine_piece row line depth hshape (by omega) rfl
  have htake : (content t).take 4 = passWord := by
    rw [hbody]
    rfl
  have hdrop : (content t).drop 4 = b := by
    rw [hbody]
    rfl
  rwa [htake, hdrop] at hscan

/-- A `pass` alone on its line is read as a name and the end of the line. -/
theorem scanLine_pass (row : Nat) (line : Text) (depth : Int) {t : Text}
    (hpass : trim t = passWord) (hline : '\n' ∉ t.dropLast)
    (hjunk : ∀ token ∈ (scanLine row line 0 depth t).1, token.kind ≠ .junk) :
    ∃ ends, scanLine row line 0 depth t =
        (⟨.name, passWord, row, line⟩ :: ends, ⟨depth, false, none⟩) ∧
      (ends = [] ∧ '\n' ∉ t ∨
        ∃ text, ends = [⟨if depth > 0 then .lineEnd else .newline, text, row, line⟩]) := by
  obtain ⟨b, hbody, hb⟩ := content_of_pass row line depth hpass hline hjunk
  have hscan := scanLine_passWord row line depth hbody hb
  have hsuffix : b <:+ t := by
    refine List.IsSuffix.trans ?_ (content_suffix t)
    rw [hbody]
    exact List.suffix_append passWord b
  obtain ⟨ends, hends, hcases⟩ := scanLine_blank row line depth hb
    (newline_not_mem_suffix hline hsuffix) fun token htoken =>
      hjunk token (by rw [hscan]; exact List.mem_cons_of_mem _ htoken)
  rw [hends] at hscan
  refine ⟨ends, hscan, hcases.imp_left (And.imp_right fun hnot => ?_)⟩
  have hword : '\n' ∉ passWord := by decide
  exact newline_not_mem_of_content (by simp [hbody, hword, hnot])

/-- The tokens for the blocks that a line opens or closes where it can start a statement. -/
def openings (s : State) (row : Nat) (line : Text) : List Token :=
  if s.depth = 0 then blockTokens row line s.columns else []

/-- The state after a line that changes nothing but the open blocks. -/
def withBlocks (s : State) (line : Text) : State :=
  if s.depth = 0 then { s with columns := blockColumns line s.columns } else s

theorem after_unchanged {s : State} (hjoined : s.joined = false) (hnone : s.pending = none) :
    s.after ⟨s.depth, false, none⟩ = s := by
  obtain ⟨depth, joined, columns, pending, needsJoin⟩ := s
  obtain rfl : joined = false := hjoined
  obtain rfl : pending = none := hnone
  rfl

/-- Inside a string a line with nothing but `pass` gives no name. -/
theorem pending_eq_none_of_pass {s next : State} {row : Nat} {line : Text} {tokens : List Token}
    (hquotes : ∀ o ∈ s.pending, isQuote o.quote = true) (h : step s row line = .more tokens next)
    (hpass : trim line = passWord) (hname : ∃ t ∈ tokens, t.kind = .name) : s.pending = none := by
  obtain ⟨t, ht, hkind⟩ := hname
  rcases step_cases h with ⟨o, ho, h⟩ | ⟨hnone, -⟩ | ⟨hnone, -⟩
  · rcases scanInString_cases h with ⟨n, hrun, -⟩ | ⟨rfl, -⟩ | ⟨rfl, -⟩
    · have hquote := hquotes o ho
      rw [unquoted_of_trim_eq_pass hpass o.quote (quote_mem_of_closingRun hrun)] at hquote
      simp at hquote
    · simp_all
    · simp at ht
  · exact hnone
  · exact hnone

/-- A line with nothing but `pass` opens or closes blocks as its margin says, and gives a name and
the end of the line. -/
theorem step_pass {s next : State} {row : Nat} {line : Text} {tokens : List Token}
    (hs : Sane s) (h : step s row line = .more tokens next) (hpass : trim line = passWord)
    (hline : '\n' ∉ line.dropLast) (hjunk : ∀ t ∈ tokens, t.kind ≠ .junk)
    (hname : ∃ t ∈ tokens, t.kind = .name) :
    s.pending = none ∧ next = withBlocks s line ∧ (∃ b, content line = passWord ++ b) ∧ ∃ ends,
      tokens = openings s row line ++ ⟨.name, passWord, row, line⟩ :: ends ∧
      (ends = [] ∧ '\n' ∉ line ∨
        ∃ text, ends = [⟨if s.depth > 0 then .lineEnd else .newline, text, row, line⟩]) := by
  have hnone := pending_eq_none_of_pass hs.quote h hpass hname
  refine ⟨hnone, ?_⟩
  rcases step_cases h with ⟨o, ho, -⟩ | ⟨-, hdepth, h⟩ | ⟨-, hinside, rfl, rfl⟩
  · simp [hnone] at ho
  · rw [withBlocks, openings, if_pos hdepth, if_pos hdepth]
    rcases scanStatement_cases s row line with
      ⟨-, hstop⟩ | ⟨-, -, filler, hmore, hfiller⟩ | ⟨-, hmore⟩
    · simp [hstop] at h
    · obtain ⟨rfl, -⟩ := LineResult.more.inj (hmore.symm.trans h)
      obtain ⟨t, ht, hkind⟩ := hname
      have := (hfiller t ht).1
      simp [hkind, isFiller] at this
    · rw [hmore] at h
      split at h
      · simp at h
      · obtain ⟨rfl, rfl⟩ := LineResult.more.inj h
        have hpass' := (trim_content line).trans hpass
        have hline' := newline_not_mem_suffix hline (content_suffix line)
        have hjunk' : ∀ t ∈ (scanLine row line 0 s.depth (content line)).1, t.kind ≠ .junk :=
          fun t ht => hjunk t (List.mem_append_right _ ht)
        obtain ⟨b, hbody, -⟩ := content_of_pass row line s.depth hpass' hline' hjunk'
        obtain ⟨ends, hscan, hends⟩ := scanLine_pass row line s.depth hpass' hline' hjunk'
        rw [hscan]
        refine ⟨?_, ⟨b, (content_content line).symm.trans hbody⟩, ends, rfl,
          hends.imp_left (And.imp_right newline_not_mem_of_content)⟩
        exact after_unchanged (s := { s with columns := blockColumns line s.columns })
          hs.joined hnone
  · have hdepth : s.depth ≠ 0 := by
      intro hzero
      have hjoined := hinside hzero
      simp [hs.joined] at hjoined
    obtain ⟨b, hbody, -⟩ := content_of_pass row line s.depth hpass hline hjunk
    obtain ⟨ends, hscan, hends⟩ := scanLine_pass row line s.depth hpass hline hjunk
    rw [hscan, withBlocks, openings, if_neg hdepth, if_neg hdepth]
    exact ⟨after_unchanged hs.joined hnone, ⟨b, hbody⟩, ends, rfl, hends⟩

end Pruner.Token
