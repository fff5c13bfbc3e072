import Pruner.Proofs.Text.Blank
import Pruner.Proofs.Text.Pieces
import Mathlib.Data.List.Basic
import Mathlib.Data.List.Infix

namespace Pruner.Text

/-- Whether a word stands at the head of a text, with no word character around it. -/
def startsWord (word : Text) (inside : Bool) (t : Text) : Bool :=
  !inside && word.isPrefixOf t && !(t.drop word.length).head?.any isWord

theorem cutAtWord?_cons (word : Text) (inside : Bool) (c : Char) (cs : Text) :
    cutAtWord? word inside (c :: cs) =
      if startsWord word inside (c :: cs) then some ([], (c :: cs).drop word.length)
      else (cutAtWord? word (isWord c) cs).map fun (before, after) => (c :: before, after) := rfl

theorem startsWord_iff {word t : Text} {inside : Bool} :
    startsWord word inside t = true ↔
      inside = false ∧ ∃ after, t = word ++ after ∧ after.head?.any isWord = false := by
  simp only [startsWord, Bool.and_eq_true, Bool.not_eq_true', and_assoc]
  constructor
  · rintro ⟨hin, hpre, hafter⟩
    obtain ⟨after, rfl⟩ := List.isPrefixOf_iff_prefix.mp hpre
    exact ⟨hin, after, rfl, by simpa using hafter⟩
  · rintro ⟨hin, after, rfl, hafter⟩
    exact ⟨hin, by simp, by simpa using hafter⟩

/-- Only the word and one more character are looked at. -/
theorem startsWord_append {word t : Text} (h : word.length < t.length) (inside : Bool)
    (x y : Text) : startsWord word inside (t ++ x) = startsWord word inside (t ++ y) := by
  have hprefix (z : Text) : word.isPrefixOf (t ++ z) = word.isPrefixOf t := by
    rw [Bool.eq_iff_iff, List.isPrefixOf_iff_prefix, List.isPrefixOf_iff_prefix]
    constructor
    · intro hz
      exact List.prefix_of_prefix_length_le hz (List.prefix_append t z) (by omega)
    · intro hz
      exact hz.trans (List.prefix_append t z)
  have hhead (z : Text) : ((t ++ z).drop word.length).head? = (t.drop word.length).head? := by
    rw [List.drop_append_of_le_length (by omega), List.head?_append_of_ne_nil]
    simpa using h
  simp only [startsWord, hprefix, hhead]

/-- A cut is at the word itself, and no word character follows. -/
theorem cutAtWord?_eq_some {word t before after : Text} {inside : Bool}
    (h : cutAtWord? word inside t = some (before, after)) :
    t = before ++ word ++ after ∧ after.head?.any isWord = false := by
  induction t generalizing inside before with
  | nil => simp [cutAtWord?] at h
  | cons c cs ih =>
    rw [cutAtWord?_cons] at h
    split at h
    · rename_i hhere
      obtain ⟨-, rest, hrest, hnot⟩ := startsWord_iff.mp hhere
      simp only [hrest, List.drop_left, Option.some.injEq, Prod.mk.injEq] at h
      obtain ⟨rfl, rfl⟩ := h
      exact ⟨hrest, hnot⟩
    · rw [Option.map_eq_some_iff] at h
      obtain ⟨⟨before', after'⟩, hcut, heq⟩ := h
      simp only [Prod.mk.injEq] at heq
      obtain ⟨rfl, rfl⟩ := heq
      obtain ⟨rfl, hafter⟩ := ih hcut
      exact ⟨by simp, hafter⟩

theorem cutAtWord?_here {word after : Text} (hword : word ≠ [])
    (hafter : after.head?.any isWord = false) :
    cutAtWord? word false (word ++ after) = some ([], after) := by
  obtain ⟨w, ws, rfl⟩ := List.exists_cons_of_ne_nil hword
  have hhere : startsWord (w :: ws) false (w :: ws ++ after) = true :=
    startsWord_iff.mpr ⟨rfl, after, rfl, hafter⟩
  rw [List.cons_append] at hhere ⊢
  rw [cutAtWord?_cons, if_pos hhere]
  simp

/-- What follows the word does not matter for where it is found. -/
theorem cutAtWord?_replace {word t before after after' : Text} {inside : Bool} (hword : word ≠ [])
    (h : cutAtWord? word inside t = some (before, after))
    (hafter : after'.head?.any isWord = false) :
    cutAtWord? word inside (before ++ word ++ after') = some (before, after') := by
  obtain ⟨rfl, -⟩ := cutAtWord?_eq_some h
  induction before generalizing inside with
  | nil =>
    obtain ⟨w, ws, rfl⟩ := List.exists_cons_of_ne_nil hword
    simp only [List.nil_append, List.cons_append] at h ⊢
    have hinside : inside = false := by
      rw [cutAtWord?_cons] at h
      split at h
      · rename_i hhere
        exact (startsWord_iff.mp hhere).1
      · simp [Option.map_eq_some_iff] at h
    rw [hinside]
    exact cutAtWord?_here hword hafter
  | cons c cs ih =>
    simp only [List.cons_append] at h ⊢
    rw [cutAtWord?_cons] at h ⊢
    -- The word cannot start here either, since the text up to its end is the same.
    have hsame : startsWord word inside (c :: (cs ++ word ++ after')) =
        startsWord word inside (c :: (cs ++ word ++ after)) := by
      apply startsWord_append (t := c :: (cs ++ word))
      simp only [List.length_cons, List.length_append]
      omega
    rw [hsame]
    split at h
    · simp at h
    · rename_i hnot
      rw [Option.map_eq_some_iff] at h
      obtain ⟨⟨before, rest⟩, hcut, heq⟩ := h
      simp only [Prod.mk.injEq, List.cons.injEq, true_and] at heq
      obtain ⟨rfl, rfl⟩ := heq
      rw [if_neg hnot, ih hcut]
      rfl

/-- A character that is neither a word character nor the first of the word is passed over. -/
theorem cutAtWord?_skip {word t : Text} {c : Char} (hword : word.head? ≠ some c)
    (hne : word ≠ []) (hc : isWord c = false) (inside : Bool) :
    cutAtWord? word inside (c :: t) =
      (cutAtWord? word false t).map fun (before, after) => (c :: before, after) := by
  have hnot : ¬startsWord word inside (c :: t) = true := by
    rw [startsWord_iff]
    rintro ⟨-, after, heq, -⟩
    obtain ⟨w, ws, rfl⟩ := List.exists_cons_of_ne_nil hne
    simp only [List.cons_append, List.cons.injEq] at heq
    simp [heq.1] at hword
  rw [cutAtWord?_cons, if_neg hnot, hc]

/-- Inside a word nothing is cut. -/
theorem cutAtWord?_inside {word w : Text} (hw : ∀ c ∈ w, isWord c = true) (t : Text) :
    cutAtWord? word true (w ++ t) =
      (cutAtWord? word true t).map fun (before, after) => (w ++ before, after) := by
  induction w with
  | nil => exact (Option.map_id' (x := cutAtWord? word true t)).symm
  | cons c cs ih =>
    have hnot : ¬startsWord word true (c :: (cs ++ t)) = true := by
      rw [startsWord_iff]
      simp
    rw [List.cons_append, cutAtWord?_cons, if_neg hnot, hw c (by simp),
      ih fun d hd => hw d (List.mem_cons_of_mem c hd), Option.map_map]
    rfl

/-- Another word and the character that ends it are passed over. -/
theorem cutAtWord?_other {word w t : Text} {c : Char} (hword : ∀ d ∈ word, isWord d = true)
    (hne : word ≠ []) (hw : ∀ d ∈ w, isWord d = true) (hw' : w ≠ []) (hother : w ≠ word)
    (hc : isWord c = false) :
    cutAtWord? word false (w ++ c :: t) =
      (cutAtWord? word false t).map fun (before, after) => (w ++ c :: before, after) := by
  obtain ⟨d, ds, rfl⟩ := List.exists_cons_of_ne_nil hw'
  have hnot : ¬startsWord word false (d :: (ds ++ c :: t)) = true := by
    rw [startsWord_iff]
    rintro ⟨-, after, hsplit, hafter⟩
    rw [← List.cons_append] at hsplit
    -- The word would have to end where `d :: ds` does.
    rcases List.append_eq_append_iff.mp hsplit with ⟨more, hmore, hrest⟩ | ⟨more, hmore, hrest⟩
    · cases more with
      | nil => exact hother (by simpa using hmore.symm)
      | cons e more =>
        have hmem : c ∈ word := by
          rw [hmore, (List.cons.inj hrest).1]
          simp
        simp [hword c hmem] at hc
    · cases more with
      | nil => exact hother (by simpa using hmore)
      | cons e more =>
        have hmem : e ∈ d :: ds := by
          rw [hmore]
          simp
        rw [hrest, List.cons_append, List.head?_cons, Option.any_some, hw e hmem] at hafter
        simp at hafter
  have hfirst : word.head? ≠ some c := by
    intro hsome
    simp [hword c (List.mem_of_head? hsome)] at hc
  rw [List.cons_append, cutAtWord?_cons, if_neg hnot, hw d (by simp),
    cutAtWord?_inside fun e he => hw e (List.mem_cons_of_mem d he),
    cutAtWord?_skip hfirst hne hc, Option.map_map, Option.map_map]
  rfl

/-- Blanks in front are passed over. -/
theorem cutAtWord?_blanks {word a : Text} (ha : ∀ c ∈ a, isBlank c = true)
    (hword : ∀ c ∈ word.head?, isBlank c = false) (hne : word ≠ []) (t : Text) :
    cutAtWord? word false (a ++ t) =
      (cutAtWord? word false t).map fun (before, after) => (a ++ before, after) := by
  induction a with
  | nil => exact (Option.map_id' (x := cutAtWord? word false t)).symm
  | cons c cs ih =>
    have hc : isBlank c = true := ha c (by simp)
    have hfirst : word.head? ≠ some c := by
      intro hsome
      simp [hword c hsome] at hc
    rw [List.cons_append, cutAtWord?_skip hfirst hne (isWord_eq_false_of_isBlank hc),
      ih fun d hd => ha d (List.mem_cons_of_mem c hd), Option.map_map]
    rfl

/-- Blanks in front of the word stay in front of it. -/
theorem cutAtWord?_blank_append {word a after : Text} (ha : ∀ c ∈ a, isBlank c = true)
    (hword : ∀ c ∈ word.head?, isBlank c = false) (hne : word ≠ [])
    (hafter : after.head?.any isWord = false) :
    cutAtWord? word false (a ++ word ++ after) = some (a, after) := by
  rw [List.append_assoc, cutAtWord?_blanks ha hword hne, cutAtWord?_here hne hafter]
  simp

/-- The words on the two sides of a blank are independent of each other. -/
theorem words_append_blank {c : Char} (hc : isBlank c = true) (x y : Text) :
    words (x ++ c :: y) = words x ++ words y := by
  simp only [words, pieces_eq_splitOnP]
  rw [List.splitOnP_append_cons x y hc, List.filter_append]

theorem words_cons_blank {c : Char} (hc : isBlank c = true) (t : Text) :
    words (c :: t) = words t :=
  words_append_blank hc [] t

theorem words_blank_append {a : Text} (ha : ∀ c ∈ a, isBlank c = true) (t : Text) :
    words (a ++ t) = words t := by
  induction a with
  | nil => rfl
  | cons c cs ih =>
    rw [List.cons_append, words_cons_blank (ha c (by simp))]
    exact ih fun d hd => ha d (List.mem_cons_of_mem c hd)

theorem words_trim (t : Text) : words (trim t) = words t := by
  obtain ⟨a, b, ha, hb, hsplit⟩ := exists_trim t
  conv_rhs => rw [hsplit, List.append_assoc, words_blank_append ha]
  cases b with
  | nil => rw [List.append_nil]
  | cons c cs =>
    have hrest := words_blank_append (fun d hd => hb d (List.mem_cons_of_mem c hd)) []
    rw [List.append_nil] at hrest
    rw [words_append_blank (hb c (by simp)), hrest]
    exact (List.append_nil _).symm

theorem words_of_no_blank {w : Text} (hne : w ≠ []) (h : ∀ c ∈ w, isBlank c = false) :
    words w = [w] := by
  rw [words, pieces_eq_splitOnP, List.splitOnP_eq_singleton h]
  simp [hne]

/-- A visible character stands in a word. -/
theorem exists_word_of_mem {t : Text} {c : Char} (hc : c ∈ t) (hvisible : isBlank c = false) :
    ∃ w ∈ words t, c ∈ w := by
  have hmem : c ∈ (pieces isBlank t).flatten := by
    rw [pieces_flatten, List.mem_filter]
    simp [hc, hvisible]
  obtain ⟨w, hw, hcw⟩ := List.mem_flatten.mp hmem
  refine ⟨w, List.mem_filter.mpr ⟨hw, ?_⟩, hcw⟩
  simp [List.ne_nil_of_mem hcw]

theorem words_ne_nil {t : Text} {c : Char} (hc : c ∈ t) (hvisible : isBlank c = false) :
    words t ≠ [] := by
  obtain ⟨w, hw, -⟩ := exists_word_of_mem hc hvisible
  exact List.ne_nil_of_mem hw

/-- A run of visible characters between blanks is the first word. -/
theorem words_word_append {a w rest : Text} (ha : ∀ c ∈ a, isBlank c = true) (hne : w ≠ [])
    (hw : ∀ c ∈ w, isBlank c = false) (hrest : ∀ c ∈ rest.head?, isBlank c = true) :
    words (a ++ w ++ rest) = w :: words rest := by
  rw [List.append_assoc, words_blank_append ha]
  cases rest with
  | nil =>
    rw [List.append_nil, words_of_no_blank hne hw]
    rfl
  | cons c cs =>
    have hc : isBlank c = true := hrest c rfl
    rw [words_append_blank hc, words_of_no_blank hne hw, words_cons_blank hc]
    rfl

theorem words_between_blanks {a w b : Text} (ha : ∀ c ∈ a, isBlank c = true)
    (hb : ∀ c ∈ b, isBlank c = true) (hne : w ≠ []) (hw : ∀ c ∈ w, isBlank c = false) :
    words (a ++ w ++ b) = [w] := by
  have hrest := words_blank_append hb []
  rw [List.append_nil] at hrest
  rw [words_word_append ha hne hw fun c hc => hb c (List.mem_of_head? hc), hrest]
  rfl

/-- Where the first word of a text stands. -/
theorem exists_of_words_eq_cons {t w : Text} {ws : List Text} (h : words t = w :: ws) :
    ∃ a rest : Text, t = a ++ w ++ rest ∧ (∀ c ∈ a, isBlank c = true) ∧ w ≠ [] ∧
      (∀ c ∈ w, isBlank c = false) ∧ (∀ c ∈ rest.head?, isBlank c = true) ∧ words rest = ws := by
  have hsplit : t.takeWhile isBlank ++ trimLeft t = t := List.takeWhile_append_dropWhile
  have hblank : ∀ c ∈ t.takeWhile isBlank, isBlank c = true := fun c => List.mem_takeWhile_imp
  have hwords : words (trimLeft t) = w :: ws := by
    rw [← words_blank_append hblank, hsplit, h]
  obtain ⟨c, cs, hcs⟩ : ∃ c cs, trimLeft t = c :: cs := by
    apply List.exists_cons_of_ne_nil
    intro hnil
    rw [hnil] at hwords
    simp [words, pieces, pieces.go] at hwords
  have hc : isBlank c = false := trimLeft_head t c (by rw [hcs]; rfl)
  -- The word goes on up to the next blank.
  let v := (trimLeft t).takeWhile (!isBlank ·)
  let rest := (trimLeft t).dropWhile (!isBlank ·)
  have hvrest : v ++ rest = trimLeft t := List.takeWhile_append_dropWhile
  have hne : v ≠ [] := by
    simp [v, hcs, hc]
  have hv : ∀ d ∈ v, isBlank d = false := by
    intro d hd
    simpa using List.mem_takeWhile_imp hd
  have hrest : ∀ d ∈ rest.head?, isBlank d = true := by
    intro d hd
    have hnot := List.head?_dropWhile_not (!isBlank ·) (trimLeft t)
    rw [show ((trimLeft t).dropWhile (!isBlank ·)).head? = some d from hd] at hnot
    simpa using hnot
  have hfound := words_word_append (a := []) (by simp) hne hv hrest
  rw [List.nil_append, hvrest, hwords] at hfound
  obtain ⟨rfl, rfl⟩ := List.cons.inj hfound
  refine ⟨t.takeWhile isBlank, rest, ?_, hblank, hne, hv, hrest, rfl⟩
  rw [List.append_assoc, hvrest, hsplit]

theorem erase_go_skip (part : Text) (n : Nat) (t : Text) :
    erase.go part n t = erase part (t.drop n) := by
  induction n generalizing t with
  | zero => rfl
  | succ n ih =>
    cases t with
    | nil => rfl
    | cons c cs => rw [erase.go, ih, List.drop_succ_cons]

theorem erase_cons {part : Text} (hpart : part ≠ []) (c : Char) (cs : Text) :
    erase part (c :: cs) =
      if part.isPrefixOf (c :: cs) then erase part ((c :: cs).drop part.length)
      else c :: erase part cs := by
  have hlen : part.length = part.length - 1 + 1 := by
    have := List.length_pos_of_ne_nil hpart
    omega
  conv_lhs => rw [erase, erase.go]
  rw [erase_go_skip, hlen, List.drop_succ_cons]
  rfl

theorem erase_append_self {part : Text} (hpart : part ≠ []) (t : Text) :
    erase part (part ++ t) = erase part t := by
  obtain ⟨p, ps, rfl⟩ := List.exists_cons_of_ne_nil hpart
  rw [List.cons_append, erase_cons hpart, if_pos (by simp)]
  simp

theorem erase_sublist {part : Text} (hpart : part ≠ []) (t : Text) : (erase part t).Sublist t := by
  induction hn : t.length using Nat.strongRecOn generalizing t with
  | _ n ih =>
    cases t with
    | nil => exact List.Sublist.refl []
    | cons c cs =>
      rw [erase_cons hpart]
      have hpos := List.length_pos_of_ne_nil hpart
      split
      · refine (ih _ ?_ _ rfl).trans (List.drop_sublist _ _)
        simp only [List.length_drop, List.length_cons] at hn ⊢
        omega
      · refine (ih cs.length ?_ cs rfl).cons_cons c
        simp only [List.length_cons] at hn
        omega

/-- A part that does not occur leaves nothing to erase. -/
theorem erase_of_not_occursIn {part t : Text} (hpart : part ≠ []) (h : occursIn part t = false) :
    erase part t = t := by
  induction t with
  | nil => rfl
  | cons c cs ih =>
    rw [occursIn, Bool.or_eq_false_iff] at h
    rw [erase_cons hpart, h.1, if_neg Bool.false_ne_true, ih h.2]

/-- Erasing a part with a marked character takes marked characters away, or changes nothing. -/
theorem erase_eq_or_countP_lt {part : Text} {q : Char → Bool} (hq : ∃ c ∈ part, q c = true)
    (t : Text) : erase part t = t ∨ (erase part t).countP q < t.countP q := by
  have hpart : part ≠ [] := by
    rintro rfl
    simp at hq
  induction t with
  | nil => exact Or.inl rfl
  | cons c cs ih =>
    rw [erase_cons hpart]
    split
    · rename_i hpre
      obtain ⟨rest, hrest⟩ := List.isPrefixOf_iff_prefix.mp hpre
      have hle : (erase part rest).countP q ≤ rest.countP q :=
        (erase_sublist hpart rest).countP_le
      have hpos : 0 < part.countP q := List.countP_pos_iff.mpr hq
      rw [← hrest, List.drop_left, List.countP_append]
      exact Or.inr (by omega)
    · rcases ih with heq | hlt
      · exact Or.inl (by rw [heq])
      · simp only [List.countP_cons]
        exact Or.inr (by omega)

theorem erase_of_not_mem {part t : Text} {c : Char} (hpart : c ∈ part) (ht : c ∉ t) :
    erase part t = t := by
  have hzero : t.countP (· == c) = 0 := by
    rw [List.countP_eq_zero]
    intro d hd hcd
    exact ht (beq_iff_eq.mp hcd ▸ hd)
  rcases erase_eq_or_countP_lt (q := (· == c)) ⟨c, hpart, by simp⟩ t with heq | hlt
  · exact heq
  · omega

/-- Whether the last character of a text is a word character; `inside` says so of an empty one. -/
def endsInside (inside : Bool) (s : Text) : Bool :=
  s.getLast?.elim inside isWord

theorem endsInside_cons (inside : Bool) (c : Char) (cs : Text) :
    endsInside inside (c :: cs) = endsInside (isWord c) cs := by
  rw [endsInside, endsInside, List.getLast?_cons]
  cases cs.getLast? <;> rfl

theorem endsInside_append {s : Text} (hs : s ≠ []) (inside : Bool) (a : Text) :
    endsInside inside (a ++ s) = endsInside false s := by
  obtain ⟨c, hc⟩ : ∃ c, s.getLast? = some c := ⟨_, List.getLast?_eq_some_getLast hs⟩
  rw [endsInside, endsInside, List.getLast?_append, hc]
  rfl

/-- A word that is found in the rest of a text is found in the text. -/
theorem cutAtWord?_append_isSome {word s t : Text} {inside : Bool}
    (h : (cutAtWord? word (endsInside inside s) t).isSome = true) :
    (cutAtWord? word inside (s ++ t)).isSome = true := by
  induction s generalizing inside with
  | nil => exact h
  | cons c cs ih =>
    rw [List.cons_append, cutAtWord?_cons]
    split
    · rfl
    · rw [Option.isSome_map]
      apply ih
      rw [← endsInside_cons]
      exact h

theorem endsInside_blank {gap : Text} (hgap : ∀ c ∈ gap, isBlank c = true) :
    endsInside false gap = false := by
  rw [endsInside]
  cases hlast : gap.getLast? with
  | none => rfl
  | some c => exact isWord_eq_false_of_isBlank (hgap c (List.mem_of_getLast? hlast))

end Pruner.Text
