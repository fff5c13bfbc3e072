import Pruner.Proofs.Token.Reach
import Pruner.Proofs.Text.Blank

namespace Pruner.Token

open Pruner.Text

/-- What the reader does at a place of a line, and how many characters after the first one it
passes over. -/
inductive Move
  | skip (count : Nat)
  | join (count : Nat)
  /-- The rest of the line belongs to a string that goes on on the next line. -/
  | hold (text : Text) (triple : Bool) (quote : Char)
  | emit (kind : TokenKind) (text : Text) (depth : Int) (count : Nat)

/-- The move at a place of a line. -/
def move (depth : Int) (c : Char) (cs : Text) : Move :=
  let blanks := ((c :: cs).takeWhile isInnerBlank).length
  let body := (c :: cs).drop blanks
  match shape? body with
  | none => .emit .junk [c] depth 0
  | some (shape, n) =>
    let text := body.take n
    let next := blanks + n - 1
    match shape with
    | .finish => .skip next
    | .joiner => .join next
    | .unclosed quote => .hold body false quote
    | .tripleQuote quote =>
      match closingRun true quote (body.drop n) with
      | none => .hold body true quote
      | some k => .emit .string (body.take (n + k)) depth (next + k)
    | .op => .emit .op text (depthAfter depth text) next
    | .word => .emit (wordKind text) text depth next
    | .comment => .emit .comment text depth next
    | .number => .emit .number text depth next
    | .newline => .emit (if depth > 0 then .lineEnd else .newline) text depth next
    | .quoted => .emit .string text depth next

theorem scanLine_nil (row : Nat) (line : Text) (skip : Nat) (depth : Int) :
    scanLine row line skip depth [] = ([], ⟨depth, false, none⟩) := by
  cases skip <;> rfl

theorem scanLine_drop (row : Nat) (line : Text) (skip : Nat) (depth : Int) (t : Text) :
    scanLine row line skip depth t = scanLine row line 0 depth (t.drop skip) := by
  induction t generalizing skip with
  | nil => rw [List.drop_nil, scanLine_nil, scanLine_nil]
  | cons c cs ih =>
    cases skip with
    | zero => rfl
    | succ skip => rw [scanLine, ih, List.drop_succ_cons]

/-- Reading a line goes on as its first move says. -/
theorem scanLine_cons (row : Nat) (line : Text) (depth : Int) (c : Char) (cs : Text) :
    scanLine row line 0 depth (c :: cs) =
      match move depth c cs with
      | .skip n => scanLine row line 0 depth (cs.drop n)
      | .join n =>
        let (tokens, ending) := scanLine row line 0 depth (cs.drop n)
        (tokens, { ending with joined := true })
      | .hold text triple quote => ([], ⟨depth, false, some ⟨text, row, line, triple, quote⟩⟩)
      | .emit kind text depth' n =>
        let (tokens, ending) := scanLine row line 0 depth' (cs.drop n)
        (⟨kind, text, row, line⟩ :: tokens, ending) := by
  rw [scanLine, move]
  simp only [scanLine_drop row line (_ + _ - 1), scanLine_drop row line (_ + _ - 1 + _)]
  generalize (c :: cs).drop ((c :: cs).takeWhile isInnerBlank).length = body
  cases shape? body with
  | none => rfl
  | some found =>
    obtain ⟨shape, n⟩ := found
    cases shape with
    | tripleQuote quote =>
      dsimp only
      cases closingRun true quote (body.drop n) <;> rfl
    | _ => rfl

/-- Induction over the moves along a line. -/
theorem line_moves {row : Nat} {line : Text} {P : Int → Text → List Token → Ending → Prop}
    (finish : ∀ depth, P depth [] [] ⟨depth, false, none⟩)
    (skip : ∀ depth c cs n tokens ending, move depth c cs = .skip n →
      P depth (cs.drop n) tokens ending → P depth (c :: cs) tokens ending)
    (join : ∀ depth c cs n tokens ending, move depth c cs = .join n →
      P depth (cs.drop n) tokens ending → P depth (c :: cs) tokens { ending with joined := true })
    (hold : ∀ depth c cs text triple quote, move depth c cs = .hold text triple quote →
      P depth (c :: cs) [] ⟨depth, false, some ⟨text, row, line, triple, quote⟩⟩)
    (emit : ∀ depth c cs kind text depth' n tokens ending,
      move depth c cs = .emit kind text depth' n → P depth' (cs.drop n) tokens ending →
        P depth (c :: cs) (⟨kind, text, row, line⟩ :: tokens) ending)
    (depth : Int) (t : Text) :
    P depth t (scanLine row line 0 depth t).1 (scanLine row line 0 depth t).2 := by
  induction hlen : t.length using Nat.strongRecOn generalizing depth t with
  | ind len ih =>
    cases t with
    | nil => exact finish depth
    | cons c cs =>
      have hless (n : Nat) : (cs.drop n).length < len := by
        rw [List.length_drop]
        simp only [List.length_cons] at hlen
        omega
      rw [scanLine_cons]
      cases hmove : move depth c cs with
      | skip n => exact skip depth c cs n _ _ hmove (ih _ (hless n) depth _ rfl)
      | join n => exact join depth c cs n _ _ hmove (ih _ (hless n) depth _ rfl)
      | hold text triple quote => exact hold depth c cs text triple quote hmove
      | emit kind text depth' n =>
        exact emit depth c cs kind text depth' n _ _ hmove (ih _ (hless n) depth' _ rfl)

/-- Kinds of tokens that say how blocks are nested, or that the text ends. -/
def isLayout : TokenKind → Bool
  | .indent => true
  | .dedent => true
  | .endMarker => true
  | _ => false

theorem quote_of_stringMarkRun {t : Text} {n : Nat} {q : Char} (h : stringMarkRun t = some n)
    (hq : (t.drop n).head? = some q) : isQuote q = true := by
  unfold stringMarkRun at h
  repeat' split at h
  all_goals simp_all
  all_goals grind

/-- What a piece of a given shape starts with, and how long it is. -/
theorem shape?_cases {c : Char} {cs : Text} {shape : Shape} {n : Nat}
    (h : shape? (c :: cs) = some (shape, n)) :
    shape = .joiner ∧ c = '\\' ∨ shape = .comment ∧ c = '#' ∨ shape = .quoted ∨
    (∃ q, isQuote q = true ∧ (shape = .tripleQuote q ∨ shape = .unclosed q)) ∨
    shape = .number ∨ shape = .newline ∧ n = newlineRun (c :: cs) ∧ n ≠ 0 ∨ shape = .op ∨
    shape = .word := by
  rw [shape?] at h
  split at h
  · rename_i hjoin
    obtain ⟨rfl, -⟩ := Prod.mk.inj (Option.some.inj h)
    simp_all
  · split at h
    · rename_i hhash
      obtain ⟨rfl, -⟩ := Prod.mk.inj (Option.some.inj h)
      simp_all
    · dsimp only at h
      split at h
      · rename_i mark q _ hmark hopening
        obtain ⟨rfl, -⟩ := Prod.mk.inj (Option.some.inj h)
        have hquote := quote_of_stringMarkRun hmark (by simpa [hmark] using hopening)
        simp [hquote]
      · split at h
        · obtain ⟨rfl, -⟩ := Prod.mk.inj (Option.some.inj h)
          simp
        · split at h
          · rename_i hnewline
            obtain ⟨rfl, rfl⟩ := Prod.mk.inj (Option.some.inj h)
            simp [hnewline]
          · split at h
            · obtain ⟨rfl, -⟩ := Prod.mk.inj (Option.some.inj h)
              simp
            · split at h
              · rename_i found htail
                split at htail
                · rename_i mark q hmark hopening
                  obtain ⟨tail, -, hfound⟩ := Option.map_eq_some_iff.mp htail
                  have hquote := quote_of_stringMarkRun hmark (by simpa [hmark] using hopening)
                  have hshape : shape = if tail.1 then .quoted else .unclosed q := by
                    rw [← hfound, Option.some.injEq] at h
                    exact (Prod.mk.inj h).1.symm
                  cases htail1 : tail.1 <;> simp [hshape, htail1, hquote]
                · simp at htail
              · split at h
                · simp at h
                · obtain ⟨rfl, -⟩ := Prod.mk.inj (Option.some.inj h)
                  simp

/-- The move at a place is that of the first piece after the blanks there. -/
theorem move_shape {depth : Int} {c : Char} {cs : Text} {m : Move} (h : move depth c cs = m) :
    (∃ d, m = .emit .junk [d] depth 0) ∨
    ∃ body shape n, body <:+ c :: cs ∧ shape? body = some (shape, n) ∧
      match m with
      | .skip _ => shape = .finish
      | .join _ => shape = .joiner
      | .hold _ triple quote => shape = if triple then .tripleQuote quote else .unclosed quote
      | .emit kind _ _ _ => isLayout kind = false := by
  rw [move] at h
  have hsuffix := List.drop_suffix ((c :: cs).takeWhile isInnerBlank).length (c :: cs)
  generalize (c :: cs).drop ((c :: cs).takeWhile isInnerBlank).length = body at h hsuffix
  cases hshape : shape? body with
  | none =>
    rw [hshape] at h
    exact Or.inl ⟨c, h.symm⟩
  | some found =>
    obtain ⟨shape, n⟩ := found
    refine Or.inr ⟨body, shape, n, hsuffix, hshape, ?_⟩
    rw [hshape] at h
    dsimp only at h
    cases shape with
    | tripleQuote quote =>
      dsimp only at h
      cases hrun : closingRun true quote (body.drop n) <;> rw [hrun] at h <;> subst h <;> rfl
    | word =>
      subst h
      dsimp only [wordKind]
      split <;> rfl
    | newline =>
      subst h
      dsimp only
      split <;> rfl
    | _ =>
      subst h
      rfl

theorem backslash_mem_of_join {depth : Int} {c : Char} {cs : Text} {n : Nat}
    (h : move depth c cs = .join n) : '\\' ∈ c :: cs := by
  rcases move_shape h with ⟨d, hd⟩ | ⟨body, shape, k, hsuffix, hshape, rfl⟩
  · simp at hd
  · cases body with
    | nil => simp [shape?] at hshape
    | cons d ds =>
      have hd : d = '\\' := by simpa using shape?_cases hshape
      exact hsuffix.subset (by simp [hd])

theorem isQuote_of_hold {depth : Int} {c : Char} {cs text : Text} {triple : Bool} {quote : Char}
    (h : move depth c cs = .hold text triple quote) : isQuote quote = true := by
  rcases move_shape h with ⟨d, hd⟩ | ⟨body, shape, k, -, hshape, rfl⟩
  · simp at hd
  · cases body with
    | nil => cases triple <;> simp [shape?] at hshape
    | cons d ds => cases triple <;> simpa using shape?_cases hshape

theorem isLayout_of_emit {depth depth' : Int} {c : Char} {cs text : Text} {kind : TokenKind}
    {n : Nat} (h : move depth c cs = .emit kind text depth' n) : isLayout kind = false := by
  rcases move_shape h with ⟨d, hd⟩ | ⟨body, shape, k, -, -, hkind⟩
  · rw [(Move.emit.inj hd).1]
    rfl
  · exact hkind

/-- The tokens of a line stand on it, and none of them is about blocks. -/
theorem scanLine_tokens {row : Nat} {line : Text} (depth : Int) (t : Text) :
    ∀ token ∈ (scanLine row line 0 depth t).1,
      token.row = row ∧ token.line = line ∧ isLayout token.kind = false := by
  refine line_moves (P := fun _ _ tokens _ => ∀ token ∈ tokens,
    token.row = row ∧ token.line = line ∧ isLayout token.kind = false) ?_ ?_ ?_ ?_ ?_ depth t
  · simp
  · intro _ _ _ _ _ _ _ ih
    exact ih
  · intro _ _ _ _ _ _ _ ih
    exact ih
  · simp
  · intro _ _ _ kind text _ _ tokens _ hmove ih token htoken
    rcases List.mem_cons.mp htoken with rfl | htoken
    · exact ⟨rfl, rfl, isLayout_of_emit hmove⟩
    · exact ih token htoken

/-- Without a backslash a line is not joined to the next one. -/
theorem scanLine_joined {row : Nat} {line : Text} (depth : Int) {t : Text} (h : '\\' ∉ t) :
    (scanLine row line 0 depth t).2.joined = false := by
  refine line_moves (P := fun _ t _ ending => '\\' ∉ t → ending.joined = false)
    ?_ ?_ ?_ ?_ ?_ depth t h
  · intro _ _
    rfl
  · intro _ c cs n _ _ _ ih hnot
    exact ih fun hmem => hnot (List.mem_cons_of_mem c (List.mem_of_mem_drop hmem))
  · intro _ _ _ _ _ _ hmove _ hnot
    exact absurd (backslash_mem_of_join hmove) hnot
  · intro _ _ _ _ _ _ _ _
    rfl
  · intro _ c cs _ _ _ n _ _ _ ih hnot
    exact ih fun hmem => hnot (List.mem_cons_of_mem c (List.mem_of_mem_drop hmem))

/-- A string that is still open at the end of a line has started there. -/
theorem scanLine_pending {row : Nat} {line : Text} (depth : Int) (t : Text) :
    ∀ o ∈ (scanLine row line 0 depth t).2.pending,
      o.row = row ∧ o.line = line ∧ isQuote o.quote = true := by
  refine line_moves (P := fun _ _ _ ending => ∀ o ∈ ending.pending,
    o.row = row ∧ o.line = line ∧ isQuote o.quote = true) ?_ ?_ ?_ ?_ ?_ depth t
  · simp
  · intro _ _ _ _ _ _ _ ih
    exact ih
  · intro _ _ _ _ _ _ _ ih
    exact ih
  · intro _ _ _ _ _ quote hmove o ho
    rw [← Option.some.inj ho]
    exact ⟨rfl, rfl, isQuote_of_hold hmove⟩
  · intro _ _ _ _ _ _ _ _ _ _ ih
    exact ih

end Pruner.Token
