import Pruner.Proofs.Token.Runs

namespace Pruner.Token

open Pruner.Text

/-- A text without backslashes, comments and line ends. -/
def Inline (t : Text) : Prop :=
  ∀ c ∈ t, c ∉ ['\\', '#', '\r', '\n']

section Shapes

variable {c : Char} {cs t u : Text}

theorem Inline.not_mem (h : Inline t) {d : Char} (hd : d ∈ ['\\', '#', '\r', '\n']) : d ∉ t :=
  fun hmem => h d hmem hd

theorem Inline.suffix (h : Inline t) {s : Text} (hs : s <:+ t) : Inline s :=
  fun d hd => h d (hs.subset hd)

theorem Inline.append {s : Text} (hs : Inline s) (ht : Inline t) : Inline (s ++ t) := by
  intro d hd
  rcases List.mem_append.mp hd with h | h
  · exact hs d h
  · exact ht d h

theorem newlineRun_of_inline (h : Inline (c :: cs)) (u : Text) : newlineRun (c :: u) = 0 := by
  by_contra hrun
  have hc := h c (by simp)
  rcases newlineRun_head hrun with rfl | rfl <;> simp at hc

/-- The shape of a piece that is no string in triple quotes. `string` is the shape that it has as
a string in single quotes. -/
def singleShape? (t : Text) (string : Option (Shape × Nat)) : Option (Shape × Nat) :=
  if numberRun t ≠ 0 then some (.number, numberRun t)
  else if newlineRun t ≠ 0 then some (.newline, newlineRun t)
  else if operatorRun t ≠ 0 then some (.op, operatorRun t)
  else string.or
    (if (t.takeWhile isWord).length = 0 then none else some (.word, (t.takeWhile isWord).length))

theorem shape?_of_unmarked (hjoin : c = '\\' → newlineRun cs = 0) (hhash : c ≠ '#')
    (hmark : stringMarkRun (c :: cs) = none) :
    shape? (c :: cs) = singleShape? (c :: cs) none := by
  rw [shape?, if_neg (by simpa using hjoin), singleShape?, hmark]
  simp [hhash]

theorem shape?_of_marked {letters rest : Text} {q : Char} (hjoin : c = '\\' → newlineRun cs = 0)
    (hhash : c ≠ '#') (hsplit : c :: cs = letters ++ q :: rest)
    (hmark : stringMarkRun (c :: cs) = some letters.length) :
    shape? (c :: cs) =
      if [q, q, q].isPrefixOf (q :: rest) then some (.tripleQuote q, letters.length + 3)
      else singleShape? (c :: cs) ((quotedTail q rest).map fun (closed, n) =>
        (if closed then .quoted else .unclosed q, letters.length + 1 + n)) := by
  have hdrop : (c :: cs).drop letters.length = q :: rest := by rw [hsplit, List.drop_left]
  have hdrop' : (c :: cs).drop (letters.length + 1) = rest := by
    rw [← List.drop_drop, hdrop, List.drop_succ_cons, List.drop_zero]
  rw [shape?, if_neg (by simpa using hjoin), singleShape?, hmark]
  simp only [Option.bind_some, hdrop, hdrop', List.head?_cons, hhash, beq_iff_eq, if_false]
  cases [q, q, q].isPrefixOf (q :: rest) with
  | true => rfl
  | false =>
    dsimp only
    cases quotedTail q rest <;> rfl

theorem singleShape?_append (ht : Inline (c :: cs)) (hu : Detached u)
    (string : Option (Shape × Nat)) :
    singleShape? (c :: cs ++ u) string = singleShape? (c :: cs) string := by
  have hnewline : newlineRun (c :: cs ++ u) = newlineRun (c :: cs) := by
    rw [List.cons_append, newlineRun_of_inline ht, newlineRun_of_inline ht]
  rw [singleShape?, singleShape?, numberRun_append hu, hnewline,
    operatorRun_append hu (by simp), takeWhile_isWord_append hu]

/-- What stands behind a blank has no say in the shape of the piece before it. A quote behind the
blank might close a string, unless there are others before. -/
theorem shape?_append (hne : t ≠ []) (ht : Inline t) (hu : Detached u) (hslash : '\\' ∉ u)
    (hquote : ∀ q ∈ u, isQuote q = true → 2 ≤ t.count q) : shape? (t ++ u) = shape? t := by
  obtain ⟨c, cs, rfl⟩ := List.exists_cons_of_ne_nil hne
  have hjoin {s : Text} (h : c = '\\') : newlineRun s = 0 :=
    absurd (by simp [h]) (ht.not_mem (d := '\\') (by simp))
  have hhash : c ≠ '#' := fun h => ht.not_mem (d := '#') (by simp) (by simp [h])
  have hmark' := stringMarkRun_append hu hne
  have hsingle := singleShape?_append ht hu
  rw [List.cons_append] at hmark' hsingle ⊢
  cases hmark : stringMarkRun (c :: cs) with
  | none =>
    rw [hmark] at hmark'
    rw [shape?_of_unmarked hjoin hhash hmark, shape?_of_unmarked hjoin hhash hmark', hsingle]
  | some n =>
    rw [hmark] at hmark'
    obtain ⟨letters, q, rest, hsplit, rfl, hq, hletters⟩ := stringMarkRun_split hmark
    have hrest : q ∈ rest ∨ q ∉ u := by
      by_contra hnot
      rw [not_or, not_not] at hnot
      have hcount := hquote q hnot.2 hq
      have hzero : letters.count q = 0 := by
        rw [List.count_eq_zero]
        intro hmem
        rw [hletters q hmem] at hq
        contradiction
      rw [hsplit, List.count_append, List.count_cons_self, List.count_eq_zero_of_not_mem hnot.1,
        hzero] at hcount
      omega
    have hinline : Inline rest := ht.suffix ⟨letters ++ [q], by rw [hsplit]; simp⟩
    have hsplit' : c :: (cs ++ u) = letters ++ q :: (rest ++ u) := by
      rw [← List.cons_append, hsplit, List.append_assoc, List.cons_append]
    rw [shape?_of_marked hjoin hhash hsplit hmark, shape?_of_marked hjoin hhash hsplit' hmark',
      ← List.cons_append, isPrefixOf_append hu (by simp [isBlank_of_isQuote hq]), hsingle,
      quotedTail_append (hinline.not_mem (by simp)) hslash (hinline.not_mem (by simp)) hrest]

/-- What a piece in a text without line ends can be. -/
inductive InlineShape (t : Text) : Shape → Nat → Prop
  | number {n : Nat} : InlineShape t .number n
  | op {n : Nat} : InlineShape t .op n
  | word {n : Nat} : InlineShape t .word n
  | quoted {n : Nat} : InlineShape t .quoted n
  | tripleQuote {letters rest : Text} {q : Char} (hq : isQuote q = true)
      (hsplit : t = letters ++ [q, q, q] ++ rest) : InlineShape t (.tripleQuote q) (letters.length + 3)

theorem inlineShape_of_single {string : Option (Shape × Nat)} {shape : Shape} {n : Nat}
    (ht : Inline (c :: cs))
    (hstring : ∀ s k, string = some (s, k) → s = .quoted ∧ 0 < k ∧ k ≤ (c :: cs).length)
    (h : singleShape? (c :: cs) string = some (shape, n)) :
    InlineShape (c :: cs) shape n ∧ 0 < n ∧ n ≤ (c :: cs).length := by
  rw [singleShape?, newlineRun_of_inline ht] at h
  split at h
  · rename_i hrun
    obtain ⟨rfl, rfl⟩ := Prod.mk.inj (Option.some.inj h)
    exact ⟨.number, Nat.pos_of_ne_zero hrun, numberRun_le _⟩
  · rw [if_neg (by simp)] at h
    split at h
    · rename_i hrun
      obtain ⟨rfl, rfl⟩ := Prod.mk.inj (Option.some.inj h)
      exact ⟨.op, Nat.pos_of_ne_zero hrun, operatorRun_le _⟩
    · rcases Option.or_eq_some_iff.mp h with hfound | ⟨-, hfound⟩
      · obtain ⟨rfl, hpos, hle⟩ := hstring shape n hfound
        exact ⟨.quoted, hpos, hle⟩
      · split at hfound
        · simp at hfound
        · rename_i hrun
          obtain ⟨rfl, rfl⟩ := Prod.mk.inj (Option.some.inj hfound)
          exact ⟨.word, Nat.pos_of_ne_zero hrun, (List.takeWhile_sublist _).length_le⟩

/-- A piece has a character, and it is a part of its text. -/
theorem shape?_inline {shape : Shape} {n : Nat} (hne : t ≠ []) (ht : Inline t)
    (h : shape? t = some (shape, n)) : InlineShape t shape n ∧ 0 < n ∧ n ≤ t.length := by
  obtain ⟨c, cs, rfl⟩ := List.exists_cons_of_ne_nil hne
  have hjoin {s : Text} (h : c = '\\') : newlineRun s = 0 :=
    absurd (by simp [h]) (ht.not_mem (d := '\\') (by simp))
  have hhash : c ≠ '#' := fun h => ht.not_mem (d := '#') (by simp) (by simp [h])
  cases hmark : stringMarkRun (c :: cs) with
  | none =>
    rw [shape?_of_unmarked hjoin hhash hmark] at h
    exact inlineShape_of_single ht (by simp) h
  | some k =>
    obtain ⟨letters, q, rest, hsplit, rfl, hq, -⟩ := stringMarkRun_split hmark
    rw [shape?_of_marked hjoin hhash hsplit hmark] at h
    split at h
    · rename_i htriple
      obtain ⟨rest, hrest⟩ := List.isPrefixOf_iff_prefix.mp htriple
      obtain ⟨rfl, rfl⟩ := Prod.mk.inj (Option.some.inj h)
      have hsplit' : c :: cs = letters ++ [q, q, q] ++ rest := by
        rw [hsplit, ← hrest, List.append_assoc]
      refine ⟨.tripleQuote hq hsplit', by omega, ?_⟩
      rw [hsplit', List.length_append, List.length_append]
      simp
    · refine inlineShape_of_single ht ?_ h
      intro s m hstring
      have hinline : Inline rest := ht.suffix ⟨letters ++ [q], by rw [hsplit]; simp⟩
      -- Without a backslash a string in single quotes is closed on its line.
      by_cases hmem : q ∈ rest
      · obtain ⟨m', hm', htail⟩ := quotedTail_isSome (hinline.not_mem (by simp))
          (hinline.not_mem (by simp)) hmem
        rw [htail] at hstring
        obtain ⟨rfl, rfl⟩ := Prod.mk.inj (Option.some.inj hstring)
        rw [hsplit, List.length_append, List.length_cons]
        exact ⟨rfl, by omega, by omega⟩
      · rw [quotedTail_eq_none (hinline.not_mem (by simp)) hmem] at hstring
        simp at hstring

end Shapes

section Lines

variable {row : Nat} {line : Text}

/-- How a line goes on after a part of it that ends in `ending`. -/
def resume (row : Nat) (line : Text) (ending : Ending) (u : Text) : Ending :=
  match ending.pending with
  | none => (scanLine row line 0 ending.depth u).2
  | some o =>
    match closingRun true o.quote u with
    | none => ⟨ending.depth, false, some { o with text := o.text ++ u }⟩
    | some n => (scanLine row line 0 ending.depth (u.drop n)).2

theorem singleShape?_pos {c : Char} {cs : Text} {string : Option (Shape × Nat)} {shape : Shape}
    {n : Nat} (hstring : ∀ s k, string = some (s, k) → 0 < k)
    (h : singleShape? (c :: cs) string = some (shape, n)) : 0 < n := by
  rw [singleShape?] at h
  split at h
  · obtain ⟨-, rfl⟩ := Prod.mk.inj (Option.some.inj h)
    omega
  · split at h
    · obtain ⟨-, rfl⟩ := Prod.mk.inj (Option.some.inj h)
      omega
    · split at h
      · obtain ⟨-, rfl⟩ := Prod.mk.inj (Option.some.inj h)
        omega
      · rcases Option.or_eq_some_iff.mp h with hfound | ⟨-, hfound⟩
        · exact hstring shape n hfound
        · split at hfound
          · simp at hfound
          · obtain ⟨-, rfl⟩ := Prod.mk.inj (Option.some.inj hfound)
            omega

theorem shape?_pos {c : Char} {cs : Text} {shape : Shape} {n : Nat}
    (h : shape? (c :: cs) = some (shape, n)) : 0 < n := by
  by_cases hjoin : c = '\\' ∧ newlineRun cs ≠ 0
  · rw [shape?, if_pos (by simp [hjoin])] at h
    obtain ⟨-, rfl⟩ := Prod.mk.inj (Option.some.inj h)
    omega
  · rw [not_and, not_not] at hjoin
    by_cases hhash : c = '#'
    · rw [shape?, if_neg (by simpa using hjoin), if_pos (by simp [hhash])] at h
      obtain ⟨-, rfl⟩ := Prod.mk.inj (Option.some.inj h)
      omega
    · cases hmark : stringMarkRun (c :: cs) with
      | none =>
        rw [shape?_of_unmarked hjoin hhash hmark] at h
        exact singleShape?_pos (by simp) h
      | some k =>
        obtain ⟨letters, q, rest, hsplit, rfl, -⟩ := stringMarkRun_split hmark
        rw [shape?_of_marked hjoin hhash hsplit hmark] at h
        split at h
        · obtain ⟨-, rfl⟩ := Prod.mk.inj (Option.some.inj h)
          omega
        · refine singleShape?_pos ?_ h
          intro s m hstring
          obtain ⟨⟨closed, m'⟩, -, heq⟩ := Option.map_eq_some_iff.mp hstring
          obtain ⟨-, rfl⟩ := Prod.mk.inj heq
          omega

theorem content_append {t u : Text} (h : content t ≠ []) : content (t ++ u) = content t ++ u := by
  rw [content, List.dropWhile_append]
  rw [content] at h
  simp [h]
  rfl

theorem drop_margin (c : Char) (cs : Text) :
    (c :: cs).drop ((c :: cs).takeWhile isInnerBlank).length = content (c :: cs) :=
  drop_length_takeWhile ..

/-- Blanks inside of a line have no say in how it ends. -/
theorem ending_cons_blank {c : Char} (hc : isInnerBlank c = true) (depth : Int) (t : Text) :
    (scanLine row line 0 depth (c :: t)).2 = (scanLine row line 0 depth t).2 := by
  have hcontent : content (c :: t) = content t := by
    rw [content, List.dropWhile_cons_of_pos hc, content]
  cases hbody : content t with
  | nil =>
    rw [scanLine_of_content_nil row line depth (hcontent.trans hbody),
      scanLine_of_content_nil row line depth hbody]
  | cons e es =>
    obtain ⟨d, ds, rfl⟩ : ∃ d ds, t = d :: ds := by
      apply List.exists_cons_of_ne_nil
      rintro rfl
      simp [content] at hbody
    rw [scanLine_cons, move]
    simp only [drop_margin, hcontent]
    cases hshape : shape? (content (d :: ds)) with
    | none => rfl
    | some found =>
      obtain ⟨shape, n⟩ := found
      have hn : 0 < n := shape?_pos (hbody ▸ hshape)
      have hdrop (k : Nat) :
          (d :: ds).drop (((c :: d :: ds).takeWhile isInnerBlank).length + n - 1 + k) =
            ds.drop (((d :: ds).takeWhile isInnerBlank).length + n - 1 + k) := by
        rw [← List.drop_drop, drop_content c (d :: ds) hn, hcontent, ← drop_content d ds hn,
          List.drop_drop]
      have hdrop' := hdrop 0
      simp only [Nat.add_zero] at hdrop'
      rw [scanLine_cons, move]
      simp only [drop_margin, hshape]
      cases shape with
      | tripleQuote quote =>
        dsimp only
        cases closingRun true quote ((content (d :: ds)).drop n) with
        | none => rfl
        | some k => simp only [hdrop]
      | _ => simp only [hdrop']

theorem ending_of_blanks {b : Text} (hb : ∀ c ∈ b, isInnerBlank c = true) (depth : Int) (u : Text) :
    (scanLine row line 0 depth (b ++ u)).2 = (scanLine row line 0 depth u).2 := by
  induction b with
  | nil => rfl
  | cons c b ih =>
    rw [List.cons_append, ending_cons_blank (hb c (by simp)),
      ih fun d hd => hb d (List.mem_cons_of_mem c hd)]

theorem count_content {q : Char} (hq : isQuote q = true) (t : Text) :
    (content t).count q = t.count q := by
  conv_rhs => rw [← margin_append_content t]
  have hzero : (margin t).count q = 0 := by
    rw [List.count_eq_zero]
    intro hmem
    rw [isQuote_of_isBlank (isBlank_of_mem_margin hmem)] at hq
    contradiction
  rw [List.count_append, hzero, Nat.zero_add]

theorem length_margin (c : Char) (cs : Text) :
    ((c :: cs).takeWhile isInnerBlank).length + (content (c :: cs)).length = cs.length + 1 := by
  rw [← List.length_append]
  exact congrArg List.length (margin_append_content (c :: cs))

theorem length_margin_append {c : Char} {cs u : Text} (hne : content (c :: cs) ≠ []) :
    ((c :: (cs ++ u)).takeWhile isInnerBlank).length =
      ((c :: cs).takeWhile isInnerBlank).length := by
  have hcontent : content (c :: (cs ++ u)) = content (c :: cs) ++ u := content_append hne
  have hlength := length_margin c (cs ++ u)
  have hlength' := length_margin c cs
  rw [hcontent, List.length_append, List.length_append] at hlength
  omega

/-- What stands behind a blank has no say in the move before it, unless a string is still open. -/
theorem move_append {c : Char} {cs u : Text} (hne : content (c :: cs) ≠ []) (ht : Inline (c :: cs))
    (hu : Detached u) (hslash : '\\' ∉ u)
    (hquote : ∀ q ∈ u, isQuote q = true → 2 ≤ (c :: cs).count q) (depth : Int) :
    (∃ kind text depth' n, n ≤ cs.length ∧ move depth c cs = .emit kind text depth' n ∧
      move depth c (cs ++ u) = .emit kind text depth' n) ∨
    ∃ text q, isQuote q = true ∧ 3 ≤ (c :: cs).count q ∧ move depth c cs = .hold text true q ∧
      ((closingRun true q u = none ∧ move depth c (cs ++ u) = .hold (text ++ u) true q) ∨
        ∃ k string, closingRun true q u = some k ∧
          move depth c (cs ++ u) = .emit .string string depth (cs.length + k)) := by
  have hinline : Inline (content (c :: cs)) := ht.suffix (content_suffix _)
  have hblanks := length_margin_append (u := u) hne
  have hbody : (c :: (cs ++ u)).drop ((c :: cs).takeWhile isInnerBlank).length =
      content (c :: cs) ++ u := by
    rw [← hblanks, drop_margin]
    exact content_append hne
  have hshape : shape? (content (c :: cs) ++ u) = shape? (content (c :: cs)) := by
    apply shape?_append hne hinline hu hslash
    intro q hq hquote'
    rw [count_content hquote']
    exact hquote q hq hquote'
  have hlength := length_margin c cs
  rw [move, move]
  simp only [drop_margin, hblanks, hbody, hshape]
  cases hfound : shape? (content (c :: cs)) with
  | none => exact Or.inl ⟨_, _, _, _, Nat.zero_le _, rfl, rfl⟩
  | some found =>
    obtain ⟨shape, n⟩ := found
    obtain ⟨hkind, hpos, hle⟩ := shape?_inline hne hinline hfound
    have hnext : ((c :: cs).takeWhile isInnerBlank).length + n - 1 ≤ cs.length := by omega
    have htake : (content (c :: cs) ++ u).take n = (content (c :: cs)).take n :=
      List.take_append_of_le_length hle
    cases hkind with
    | tripleQuote hq hsplit =>
      rename_i letters rest q
      have hcount : 3 ≤ (c :: cs).count q := by
        rw [← count_content hq, hsplit]
        simp only [List.count_append, List.count_cons_self, List.count_nil]
        omega
      have hslash' : '\\' ∉ (content (c :: cs)).drop (letters.length + 3) :=
        (hinline.suffix (List.drop_suffix _ _)).not_mem (by simp)
      dsimp only
      rw [List.drop_append_of_le_length hle, closingRun_append hu hq hslash']
      cases hclose : closingRun true q ((content (c :: cs)).drop (letters.length + 3)) with
      | some k =>
        have hk := closingRun_le hslash' hclose
        rw [List.length_drop] at hk
        dsimp only [Option.or]
        rw [List.take_append_of_le_length (by omega)]
        exact Or.inl ⟨_, _, _, _, by omega, rfl, rfl⟩
      | none =>
        refine Or.inr ⟨_, q, hq, hcount, rfl, ?_⟩
        cases hrest : closingRun true q u with
        | none => exact Or.inl ⟨rfl, rfl⟩
        | some k =>
          have hend : ((c :: cs).takeWhile isInnerBlank).length + (letters.length + 3) - 1 +
              (((content (c :: cs)).drop (letters.length + 3)).length + k) = cs.length + k := by
            rw [List.length_drop]
            omega
          exact Or.inr ⟨k, _, rfl, congrArg (Move.emit .string _ depth) hend⟩
    | _ =>
      dsimp only
      rw [htake]
      exact Or.inl ⟨_, _, _, _, hnext, rfl, rfl⟩

theorem move_of_content_nil {c : Char} {cs : Text} (h : content (c :: cs) = []) (depth : Int) :
    ∃ n, move depth c cs = .skip n := by
  rw [move]
  simp only [drop_margin, h]
  exact ⟨_, rfl⟩

theorem isInnerBlank_of_content_nil {t : Text} (h : content t = []) :
    ∀ c ∈ t, isInnerBlank c = true := by
  intro c hc
  rw [← margin_append_content t, h, List.append_nil] at hc
  exact List.mem_takeWhile_imp hc

/-- A string that is left open has three quotes. -/
theorem count_of_pending {t : Text} (ht : Inline t) (depth : Int) :
    ∀ o ∈ (scanLine row line 0 depth t).2.pending, 3 ≤ t.count o.quote := by
  refine line_moves (P := fun _ t _ ending => Inline t → ∀ o ∈ ending.pending,
    3 ≤ t.count o.quote) ?_ ?_ ?_ ?_ ?_ depth t ht
  · simp
  · intro _ c cs n _ _ _ ih ht o ho
    have hsuffix : cs.drop n <:+ c :: cs := (List.drop_suffix n cs).trans (List.suffix_cons c cs)
    exact (ih (ht.suffix hsuffix) o ho).trans (hsuffix.sublist.count_le _)
  · intro _ c cs _ _ _ hmove _ ht
    exact absurd (backslash_mem_of_join hmove) (ht.not_mem (by simp))
  · intro depth c cs text triple quote hmove ht o ho
    rw [← Option.some.inj ho]
    by_cases hne : content (c :: cs) = []
    · obtain ⟨n, hskip⟩ := move_of_content_nil hne depth
      simp [hskip] at hmove
    · rcases move_append hne ht (u := []) (by simp [Detached]) (by simp) (by simp) depth with
        ⟨_, _, _, _, -, hemit, -⟩ | ⟨_, q, -, hcount, hhold, -⟩
      · simp [hemit] at hmove
      · rw [hhold] at hmove
        obtain ⟨-, -, rfl⟩ := Move.hold.inj hmove
        exact hcount
  · intro _ c cs _ _ _ n _ _ _ ih ht o ho
    have hsuffix : cs.drop n <:+ c :: cs := (List.drop_suffix n cs).trans (List.suffix_cons c cs)
    exact (ih (ht.suffix hsuffix) o ho).trans (hsuffix.sublist.count_le _)

/-- A line ends as its first part and then the rest behind a blank say. Of the quotes only that of
a string which the first part leaves open may stand in the rest. -/
theorem scanLine_append {t u : Text} (ht : Inline t) (hu : Detached u) (hslash : '\\' ∉ u)
    (depth : Int)
    (hquote : ∀ q ∈ u, isQuote q = true →
      ∃ o ∈ (scanLine row line 0 depth t).2.pending, o.quote = q) :
    (scanLine row line 0 depth (t ++ u)).2 =
      resume row line (scanLine row line 0 depth t).2 u := by
  induction hlen : t.length using Nat.strongRecOn generalizing depth t with
  | ind len ih =>
    cases t with
    | nil => rfl
    | cons c cs =>
      by_cases hne : content (c :: cs) = []
      · rw [ending_of_blanks (isInnerBlank_of_content_nil hne),
          scanLine_of_content_nil row line depth hne]
        rfl
      · have hcount : ∀ q ∈ u, isQuote q = true → 2 ≤ (c :: cs).count q := by
          intro q hq hquote'
          obtain ⟨o, ho, rfl⟩ := hquote q hq hquote'
          have hthree := count_of_pending ht depth o ho
          omega
        rcases move_append hne ht hu hslash hcount depth with
          ⟨kind, text, depth', n, hn, hmove, hmove'⟩ | ⟨text, q, hq, -, hmove, hrest⟩
        · rw [scanLine_cons, hmove] at hquote ⊢
          rw [List.cons_append, scanLine_cons, hmove']
          dsimp only at hquote ⊢
          rw [List.drop_append_of_le_length hn]
          refine ih _ ?_ ?_ depth' hquote rfl
          · rw [← hlen, List.length_drop, List.length_cons]
            omega
          · exact ht.suffix ((List.drop_suffix n cs).trans (List.suffix_cons c cs))
        · rw [scanLine_cons row line depth c cs, hmove, List.cons_append, scanLine_cons]
          rcases hrest with ⟨hopen, hmove'⟩ | ⟨k, string, hclose, hmove'⟩
          · rw [hmove']
            simp [resume, hopen]
          · rw [hmove']
            simp only [resume, hclose, ← List.drop_drop, List.drop_left]

/-- What counts of the end of a line for the lines after it. -/
def Ending.summary (e : Ending) : Int × Bool × Option Char :=
  (e.depth, e.joined, e.pending.map (·.quote))

/-- Whether a bracket or a string is left open. -/
def Ending.isOpen (e : Ending) : Bool :=
  e.depth != 0 || e.pending.isSome

theorem isOpen_eq_of_summary {e e' : Ending} (h : e.summary = e'.summary) :
    e.isOpen = e'.isOpen := by
  have hdepth : e.depth = e'.depth := congrArg (·.1) h
  have hpending : e.pending.map (·.quote) = e'.pending.map (·.quote) := congrArg (·.2.2) h
  have hsome := congrArg Option.isSome hpending
  rw [Option.isSome_map, Option.isSome_map] at hsome
  rw [Ending.isOpen, Ending.isOpen, hdepth, hsome]

/-- The number of the line and the line as a whole are only noted. -/
theorem summary_scanLine (row row' : Nat) (line line' : Text) (depth : Int) (t : Text) :
    (scanLine row line 0 depth t).2.summary = (scanLine row' line' 0 depth t).2.summary := by
  refine line_moves (P := fun depth t _ ending =>
    ending.summary = (scanLine row' line' 0 depth t).2.summary) ?_ ?_ ?_ ?_ ?_ depth t
  · intro depth
    rw [scanLine_nil]
  · intro depth c cs n _ _ hmove ih
    rw [scanLine_cons, hmove]
    exact ih
  · intro depth c cs n _ ending hmove ih
    rw [scanLine_cons, hmove]
    obtain ⟨hdepth, hrest⟩ := Prod.mk.inj ih
    obtain ⟨-, hpending⟩ := Prod.mk.inj hrest
    exact Prod.ext hdepth (Prod.ext rfl hpending)
  · intro depth c cs _ _ _ hmove
    rw [scanLine_cons, hmove]
    rfl
  · intro depth c cs _ _ depth' n _ _ hmove ih
    rw [scanLine_cons, hmove]
    exact ih

theorem ending_content (depth : Int) (t : Text) :
    (scanLine row line 0 depth (content t)).2 = (scanLine row line 0 depth t).2 := by
  have hmargin : ∀ c ∈ margin t, isInnerBlank c = true := fun c hc => List.mem_takeWhile_imp hc
  conv_rhs => rw [← margin_append_content t]
  rw [ending_of_blanks hmargin]

/-- A single line cannot be read on its own exactly if it leaves something open. -/
theorem error_of_line (hline : IsLine line) (hslash : '\\' ∉ line) :
    (scan line).error.isSome = true ↔
      HasStatement line ∧ (scanLine 1 line 0 0 line).2.isOpen = true := by
  have hjoined : (scanLine 1 line 0 0 line).2.joined = false := scanLine_joined 0 hslash
  have hready : step {} 1 line = scanStatement {} 1 line := rfl
  rw [scan, hline.lines_eq, scanLines, hready]
  rcases scanStatement_cases {} 1 line with ⟨hnil, hstop⟩ | ⟨-, hnot, _, hmore, -⟩ | ⟨hstatement, hmore⟩
  · have hnot : ¬HasStatement line := by
      rintro ⟨c, hc, -⟩
      simp [hnil] at hc
    simp [hstop, hnot]
  · rw [hmore]
    simp [scanLines, hnot]
  · have hcolumn : ¬(column line < innermost (State.columns {}) ∧ column line ∉ State.columns {}) := by
      rintro ⟨hless, -⟩
      simp [innermost] at hless
    rw [hmore, if_neg hcolumn, ending_content]
    simp only [scanLines, State.after, hjoined, hstatement, true_and, Ending.isOpen]
    cases (scanLine 1 line 0 0 line).2.pending with
    | some o => simp
    | none =>
      by_cases hdepth : (scanLine 1 line 0 0 line).2.depth = 0
      · simp [hdepth]
      · simp [hdepth]

/-- The characters that end a line. -/
def IsLineEnd (u : Text) : Prop :=
  u = ['\n'] ∨ u = ['\r', '\n']

theorem IsLineEnd.detached {u : Text} (hu : IsLineEnd u) : Detached u := by
  rcases hu with rfl | rfl <;> simp [Detached, isBlank]

theorem IsLineEnd.mem {u : Text} (hu : IsLineEnd u) {c : Char} (hc : c ∈ u) :
    c = '\r' ∨ c = '\n' := by
  rcases hu with rfl | rfl <;> simp_all

theorem hasStatement_append_lineEnd {t u : Text} (hu : IsLineEnd u) :
    HasStatement (t ++ u) ↔ HasStatement t := by
  by_cases hne : content t = []
  · have hcontent : content (t ++ u) = u := by
      rw [content, List.dropWhile_append_of_pos (isInnerBlank_of_content_nil hne)]
      rcases hu with rfl | rfl <;> rfl
    rw [HasStatement, HasStatement, hcontent, hne]
    rcases hu with rfl | rfl <;> simp
  · rw [HasStatement, HasStatement, content_append hne, List.head?_append_of_ne_nil _ hne]

/-- The end of a line leaves open what was open before. -/
theorem isOpen_append_lineEnd {t u : Text} (ht : Inline t) (hu : IsLineEnd u) (depth : Int) :
    (scanLine row line 0 depth (t ++ u)).2.isOpen = (scanLine row line 0 depth t).2.isOpen := by
  have hno (c : Char) (hc : c ∈ u) : isQuote c = false ∧ c ≠ '\\' := by
    rcases hu.mem hc with rfl | rfl <;> decide
  have hslash : '\\' ∉ u := fun hc => (hno _ hc).2 rfl
  rw [scanLine_append ht hu.detached hslash depth]
  · have hquote : ∀ o ∈ (scanLine row line 0 depth t).2.pending,
        o.row = row ∧ o.line = line ∧ isQuote o.quote = true := scanLine_pending depth t
    rw [resume]
    cases hpending : (scanLine row line 0 depth t).2.pending with
    | none =>
      have hend (depth : Int) : (scanLine row line 0 depth u).2 = ⟨depth, false, none⟩ := by
        rcases hu with rfl | rfl <;> rfl
      simp only [hend, Ending.isOpen, hpending]
    | some o =>
      have hopen : closingRun true o.quote u = none := by
        rw [Option.eq_none_iff_forall_ne_some]
        intro n hn
        have hmem := (hno _ (quote_mem_of_closingRun hn)).1
        rw [(hquote o hpending).2.2] at hmem
        contradiction
      simp only [hopen, Ending.isOpen, hpending]
      rfl
  · intro q hq hquote
    rw [(hno q hq).1] at hquote
    contradiction

/-- Whether a line can be read on its own does not hang on how it ends. -/
theorem error_append_lineEnd {t u : Text} (ht : Inline t) (hu : IsLineEnd u) :
    (scan (t ++ u)).error.isSome = true ↔
      HasStatement t ∧ (scanLine 1 [] 0 0 t).2.isOpen = true := by
  have hline : IsLine (t ++ u) := by
    rcases hu with rfl | rfl
    · exact isLine_append (ht.not_mem (by simp))
    · rw [show t ++ ['\r', '\n'] = (t ++ ['\r']) ++ ['\n'] by simp]
      exact isLine_append (by simp [ht.not_mem (d := '\n') (by simp)])
  have hslash : '\\' ∉ t ++ u := by
    rw [List.mem_append, not_or]
    refine ⟨ht.not_mem (by simp), fun hc => ?_⟩
    rcases hu.mem hc with h | h <;> simp at h
  rw [error_of_line hline hslash, hasStatement_append_lineEnd hu, isOpen_append_lineEnd ht hu,
    isOpen_eq_of_summary (summary_scanLine 1 1 (t ++ u) [] 0 t)]

theorem operatorRun_bracket {b : Char} (hb : b = '[' ∨ b = ']') (cs : Text) :
    operatorRun (b :: cs) = 1 := by
  have hheads : (longOperators ++ twoCharOperators).all
      (fun op => op.head? != some '[' && op.head? != some ']') = true := by
    decide
  have hnot (rest : Text) : b :: rest ∉ longOperators ++ twoCharOperators := by
    intro hmem
    have hhead := List.all_eq_true.mp hheads _ hmem
    rcases hb with rfl | rfl <;> simp at hhead
  have hlong : longOperators.contains ((b :: cs).take 3) = false := by
    rw [List.contains_eq_mem, decide_eq_false_iff_not]
    exact fun hmem => hnot _ (List.mem_append_left _ hmem)
  have htwo : twoCharOperators.contains ((b :: cs).take 2) = false := by
    rw [List.contains_eq_mem, decide_eq_false_iff_not]
    exact fun hmem => hnot _ (List.mem_append_right _ hmem)
  rw [operatorRun, hlong, htwo]
  rcases hb with rfl | rfl <;> rfl

theorem shape?_bracket {b : Char} (hb : b = '[' ∨ b = ']') {cs : Text} (hcs : Unquoted cs) :
    shape? (b :: cs) = some (.op, 1) := by
  have hsafe : isQuote b = false ∧ b ≠ '\\' ∧ b ≠ '#' ∧ isDigit b = false ∧ b ≠ '.' ∧
      b ≠ '\r' ∧ b ≠ '\n' := by
    rcases hb with rfl | rfl <;> decide
  obtain ⟨hquote, hslash, hhash, hdigit, hpoint, hreturn, hfeed⟩ := hsafe
  have hmark : stringMarkRun (b :: cs) = none :=
    stringMarkRun_of_unquoted (List.forall_mem_cons.mpr ⟨hquote, hcs⟩)
  have hdecimal : decimalRun (b :: cs) = 0 := by
    rw [decimalRun, hdigit]
    rfl
  have hnumber : numberRun (b :: cs) = 0 := by
    rw [numberRun_of_not_point (by simpa [hdecimal] using hpoint)]
    exact if_pos hdecimal
  have hnewline : newlineRun (b :: cs) = 0 := by
    by_contra hrun
    rcases newlineRun_head hrun with h | h
    · exact hreturn h
    · exact hfeed h
  rw [shape?_of_unmarked (fun h => absurd h hslash) hhash hmark, singleShape?, hnumber, hnewline,
    operatorRun_bracket hb]
  rfl

/-- Square brackets that bring the depth back to zero. -/
def closingBrackets (depth : Int) : Text :=
  if 0 ≤ depth then List.replicate depth.toNat ']' else List.replicate (-depth).toNat '['

theorem scanLine_replicate {b : Char} (hb : b = '[' ∨ b = ']') (n : Nat) (depth : Int) :
    (scanLine row line 0 depth (List.replicate n b)).2 =
      ⟨if b = '[' then depth + n else depth - n, false, none⟩ := by
  have hunquoted (n : Nat) : Unquoted (List.replicate n b) := by
    intro c hc
    rw [List.eq_of_mem_replicate hc]
    rcases hb with rfl | rfl <;> rfl
  have hblank : isInnerBlank b = false := by rcases hb with rfl | rfl <;> rfl
  induction n generalizing depth with
  | zero => simp [scanLine_nil]
  | succ n ih =>
    have hcontent : content (b :: List.replicate n b) = b :: List.replicate n b := by
      rw [content, List.dropWhile_cons_of_neg (by simp [hblank])]
    have hshape : shape? (content (b :: List.replicate n b)) = some (.op, 1) := by
      rw [hcontent, shape?_bracket hb (hunquoted n)]
    rw [List.replicate_succ, scanLine_piece row line depth hshape (by omega) rfl, hcontent,
      List.drop_succ_cons, List.drop_zero, ih]
    rcases hb with rfl | rfl
    · simp [depthAfter]
      omega
    · simp [depthAfter]
      omega

theorem scanLine_closingBrackets (depth : Int) :
    (scanLine row line 0 depth (closingBrackets depth)).2 = ⟨0, false, none⟩ := by
  rw [closingBrackets]
  split
  · rw [scanLine_replicate (Or.inr rfl)]
    simp
    omega
  · rw [scanLine_replicate (Or.inl rfl)]
    simp
    omega

theorem mem_closingBrackets {depth : Int} {c : Char} (hc : c ∈ closingBrackets depth) :
    c = '[' ∨ c = ']' := by
  rw [closingBrackets] at hc
  split at hc
  · exact Or.inr (List.eq_of_mem_replicate hc)
  · exact Or.inl (List.eq_of_mem_replicate hc)

/-- Brackets and the quotes of the open string are read behind a text as they stand there. -/
theorem ending_append_closers {t closers : Text} (ht : Inline t)
    (hclosers : ∀ c ∈ closers,
      (∃ o ∈ (scanLine row line 0 0 t).2.pending, o.quote = c) ∨ c = '[' ∨ c = ']') :
    (scanLine row line 0 0 (t ++ ' ' :: closers)).2 =
      resume row line (scanLine row line 0 0 t).2 (' ' :: closers) := by
  have hpending : ∀ o ∈ (scanLine row line 0 0 t).2.pending,
      o.row = row ∧ o.line = line ∧ isQuote o.quote = true := scanLine_pending 0 t
  refine scanLine_append ht (by simp [Detached, isBlank]) ?_ 0 ?_
  · intro hmem
    rcases List.mem_cons.mp hmem with h | h
    · contradiction
    · rcases hclosers _ h with ⟨o, ho, hslash⟩ | hbracket | hbracket
      · have hquote := (hpending o ho).2.2
        rw [hslash] at hquote
        contradiction
      · contradiction
      · contradiction
  · intro q hq hquote
    rcases List.mem_cons.mp hq with rfl | h
    · contradiction
    · rcases hclosers q h with ho | rfl | rfl
      · exact ho
      · contradiction
      · contradiction

/-- Every text can be completed to one that leaves nothing open: by the quotes of an open string and
the brackets that are missing. -/
theorem exists_completion (row : Nat) (line : Text) {t : Text} (ht : Inline t) :
    ∃ closers, (∀ c ∈ closers, isQuote c = true ∨ c = '[' ∨ c = ']') ∧
      (scanLine row line 0 0 (t ++ ' ' :: closers)).2 = ⟨0, false, none⟩ := by
  have hpending : ∀ o ∈ (scanLine row line 0 0 t).2.pending,
      o.row = row ∧ o.line = line ∧ isQuote o.quote = true := scanLine_pending 0 t
  cases hopen : (scanLine row line 0 0 t).2.pending with
  | none =>
    refine ⟨closingBrackets (scanLine row line 0 0 t).2.depth,
      fun c hc => Or.inr (mem_closingBrackets hc), ?_⟩
    rw [ending_append_closers ht fun c hc => Or.inr (mem_closingBrackets hc), resume, hopen]
    dsimp only
    rw [ending_cons_blank rfl, scanLine_closingBrackets]
  | some o =>
    have hquote : isQuote o.quote = true := (hpending o hopen).2.2
    have hclosers : ∀ c ∈ [o.quote, o.quote, o.quote] ++
        closingBrackets (scanLine row line 0 0 t).2.depth, o.quote = c ∨ c = '[' ∨ c = ']' := by
      intro c hc
      rcases List.mem_append.mp hc with h | h
      · exact Or.inl (List.eq_of_mem_replicate (n := 3) h).symm
      · exact Or.inr (mem_closingBrackets h)
    refine ⟨_, fun c hc => (hclosers c hc).imp_left ?_, ?_⟩
    · rintro rfl
      exact hquote
    rw [ending_append_closers ht fun c hc => (hclosers c hc).imp_left fun h => ⟨o, hopen, h⟩,
      resume, hopen]
    dsimp only
    rw [List.cons_append, List.cons_append, List.cons_append, closingRun_quotes hquote]
    exact scanLine_closingBrackets _

end Lines

end Pruner.Token
