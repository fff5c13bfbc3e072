import Pruner.Proofs.Text.Lines
import Pruner.Proofs.Text.Words

/-!
Texts whose lines end in a carriage return and a line feed.

`crlf` puts a carriage return in front of every line feed. Both characters are blank, and neither
belongs to a word, so whatever cuts a text at blanks, at words or at other characters does the same
to both kinds of text: it commutes with `crlf`.
-/
namespace Pruner.Text

open Pruner.Line

/-- A text with a carriage return in front of every line feed. -/
def crlf (t : Text) : Text :=
  t.flatMap fun c => if c == '\n' then ['\r', '\n'] else [c]

variable {t u w : Text} {c : Char} {p : Char → Bool}

@[simp] theorem crlf_nil : crlf [] = [] := rfl

@[simp] theorem crlf_newline (t : Text) : crlf ('\n' :: t) = '\r' :: '\n' :: crlf t := rfl

theorem crlf_cons (h : c ≠ '\n') (t : Text) : crlf (c :: t) = c :: crlf t := by
  simp [crlf, h]

theorem crlf_append (t u : Text) : crlf (t ++ u) = crlf t ++ crlf u :=
  List.flatMap_append

theorem crlf_of_not_mem (h : '\n' ∉ t) : crlf t = t := by
  induction t with
  | nil => rfl
  | cons c cs ih =>
    rw [List.mem_cons, not_or] at h
    rw [crlf_cons (Ne.symm h.1), ih h.2]

/-- A line with its carriage return. -/
theorem crlf_line (h : '\n' ∉ t) (u : Text) : crlf (t ++ '\n' :: u) = t ++ '\r' :: '\n' :: crlf u := by
  rw [crlf_append, crlf_of_not_mem h, crlf_newline]

theorem crlf_flatten (ts : List Text) : crlf ts.flatten = (ts.map crlf).flatten := by
  induction ts with
  | nil => rfl
  | cons t ts ih => rw [List.flatten_cons, crlf_append, ih, List.map_cons, List.flatten_cons]

theorem length_crlf (t : Text) : (crlf t).length = t.length + t.count '\n' := by
  induction t with
  | nil => rfl
  | cons c cs ih =>
    by_cases hc : c = '\n'
    · subst hc
      rw [crlf_newline, List.count_cons_self, List.length_cons, List.length_cons, List.length_cons,
        ih]
      omega
    · rw [crlf_cons hc, List.count_cons_of_ne hc, List.length_cons, List.length_cons, ih]
      omega

theorem mem_crlf (hc : c ≠ '\r') : c ∈ crlf t ↔ c ∈ t := by
  induction t with
  | nil => rfl
  | cons d ds ih =>
    by_cases hd : d = '\n'
    · subst hd
      simp [ih, hc]
    · rw [crlf_cons hd, List.mem_cons, List.mem_cons, ih]

theorem contains_crlf (hc : c ≠ '\r') (t : Text) : (crlf t).contains c = t.contains c := by
  rw [Bool.eq_iff_iff, List.contains_iff_mem, List.contains_iff_mem, mem_crlf hc]

theorem forall_mem_crlf (hp : p '\r' = p '\n') :
    (∀ c ∈ crlf t, p c = true) ↔ ∀ c ∈ t, p c = true := by
  induction t with
  | nil => rfl
  | cons d ds ih =>
    by_cases hd : d = '\n'
    · subst hd
      simp only [crlf_newline, List.forall_mem_cons, ih, hp, and_self_left]
    · rw [crlf_cons hd, List.forall_mem_cons, List.forall_mem_cons, ih]

theorem crlf_eq_nil_iff : crlf t = [] ↔ t = [] := by
  rw [← List.length_eq_zero_iff, length_crlf, Nat.add_eq_zero_iff, List.length_eq_zero_iff]
  exact ⟨And.left, fun h => ⟨h, by rw [h]; rfl⟩⟩

theorem isEmpty_crlf (t : Text) : (crlf t).isEmpty = t.isEmpty := by
  rw [Bool.eq_iff_iff, List.isEmpty_iff, List.isEmpty_iff, crlf_eq_nil_iff]

/-- The character at the end stays. -/
theorem getLast?_crlf (t : Text) : (crlf t).getLast? = t.getLast? := by
  rcases List.eq_nil_or_concat t with rfl | ⟨s, c, rfl⟩
  · rfl
  · rw [List.concat_eq_append, crlf_append]
    by_cases hc : c = '\n'
    · subst hc
      simp
    · simp [crlf_cons hc]

theorem takeWhile_crlf (hp : p '\r' = p '\n') (t : Text) :
    (crlf t).takeWhile p = crlf (t.takeWhile p) := by
  induction t with
  | nil => rfl
  | cons d ds ih =>
    by_cases hd : d = '\n'
    · subst hd
      cases hn : p '\n' <;> simp [hp, hn, ih]
    · rw [crlf_cons hd]
      cases hn : p d <;> simp [hn, ih, crlf_cons hd]

theorem dropWhile_crlf (hp : p '\r' = p '\n') (t : Text) :
    (crlf t).dropWhile p = crlf (t.dropWhile p) := by
  have h : crlf (t.takeWhile p) ++ (crlf t).dropWhile p =
      crlf (t.takeWhile p) ++ crlf (t.dropWhile p) := by
    rw [← takeWhile_crlf hp, List.takeWhile_append_dropWhile, takeWhile_crlf hp, ← crlf_append,
      List.takeWhile_append_dropWhile]
  exact List.append_cancel_left h

theorem trimLeft_crlf (t : Text) : trimLeft (crlf t) = crlf (trimLeft t) :=
  dropWhile_crlf rfl t

/-- The blanks at the end and what stands before them: each determines the other. -/
theorem trimRight_ending_crlf (t : Text) :
    trimRight (crlf t) = crlf (trimRight t) ∧ ending (crlf t) = crlf (ending t) := by
  have hlast : ∀ c ∈ (crlf (trimRight t)).getLast?, isBlank c = false := by
    rw [getLast?_crlf]
    exact trimRight_last t
  have hblank : ∀ c ∈ crlf (ending t), isBlank c = true :=
    (forall_mem_crlf rfl).mpr fun c hc => isBlank_of_mem_ending hc
  have hsplit : crlf t = crlf (trimRight t) ++ crlf (ending t) := by
    rw [← crlf_append, trimRight_append_ending]
  constructor
  · rw [hsplit, trimRight_append_of_blank hblank, trimRight_eq_self hlast]
  · rw [hsplit, ending_append hlast hblank]

theorem trimRight_crlf (t : Text) : trimRight (crlf t) = crlf (trimRight t) :=
  (trimRight_ending_crlf t).1

theorem ending_crlf (t : Text) : ending (crlf t) = crlf (ending t) :=
  (trimRight_ending_crlf t).2

theorem trim_crlf (t : Text) : trim (crlf t) = crlf (trim t) := by
  rw [trim, trimLeft_crlf, trimRight_crlf, ← trim]

theorem indentation_crlf (t : Text) : indentation (crlf t) = crlf (indentation t) := by
  rw [indentation, indentation, trim_crlf, isEmpty_crlf, takeWhile_crlf rfl]
  split <;> rfl

theorem passFor_crlf (t : Text) : passFor (crlf t) = crlf (passFor t) := by
  have hpass : crlf "pass".toList = "pass".toList := crlf_of_not_mem (by decide)
  rw [passFor, passFor, crlf_append, crlf_append, indentation_crlf, ending_crlf, hpass]

theorem isJoined_crlf (t : Text) : isJoined (crlf t) = isJoined t := by
  have hends (x : Text) : endsWith ['\\'] x = true ↔ x.getLast? = some '\\' := by
    rw [endsWith, List.isSuffixOf_iff_suffix, List.singleton_suffix_iff_getLast?_eq_some]
  rw [Bool.eq_iff_iff, isJoined, isJoined, hends, hends, trimRight_crlf, getLast?_crlf]

/-- A text without line ends that stands in front stands in front of the text before the carriage
returns were added. -/
theorem crlf_eq_append_iff (hreturn : '\r' ∉ w) (hline : '\n' ∉ w) :
    crlf t = w ++ u ↔ ∃ v, t = w ++ v ∧ u = crlf v := by
  induction w generalizing t with
  | nil =>
    exact ⟨fun h => ⟨t, rfl, h.symm⟩, fun ⟨v, hv, hu⟩ => by rw [hv, hu]; rfl⟩
  | cons c cs ih =>
    rw [List.mem_cons, not_or] at hreturn hline
    cases t with
    | nil => simp
    | cons d ds =>
      by_cases hd : d = '\n'
      · subst hd
        simp [hreturn.1, hline.1]
      · rw [crlf_cons hd, List.cons_append, List.cons.injEq, ih hreturn.2 hline.2]
        constructor
        · rintro ⟨rfl, v, rfl, hu⟩
          exact ⟨v, rfl, hu⟩
        · rintro ⟨v, hv, hu⟩
          obtain ⟨rfl, rfl⟩ := List.cons.inj hv
          exact ⟨rfl, v, rfl, hu⟩

theorem crlf_eq_iff (hreturn : '\r' ∉ w) (hline : '\n' ∉ w) : crlf t = w ↔ t = w := by
  rw [← List.append_nil w, crlf_eq_append_iff hreturn hline, List.append_nil]
  constructor
  · rintro ⟨v, rfl, hv⟩
    rw [crlf_eq_nil_iff.mp hv.symm, List.append_nil]
  · rintro rfl
    exact ⟨[], (List.append_nil _).symm, rfl⟩

theorem startsWith_crlf (hreturn : '\r' ∉ w) (hline : '\n' ∉ w) (t : Text) :
    startsWith w (crlf t) = startsWith w t := by
  rw [Bool.eq_iff_iff, startsWith, startsWith, List.isPrefixOf_iff_prefix,
    List.isPrefixOf_iff_prefix]
  constructor
  · rintro ⟨u, hu⟩
    obtain ⟨v, rfl, -⟩ := (crlf_eq_append_iff hreturn hline).mp hu.symm
    exact List.prefix_append w v
  · rintro ⟨v, rfl⟩
    rw [crlf_append, crlf_of_not_mem hline]
    exact List.prefix_append w _

theorem head?_any_isWord_crlf (t : Text) : (crlf t).head?.any isWord = t.head?.any isWord := by
  cases t with
  | nil => rfl
  | cons c cs =>
    by_cases hc : c = '\n'
    · subst hc
      rfl
    · rw [crlf_cons hc]
      rfl

theorem startsWord_crlf (hreturn : '\r' ∉ w) (hline : '\n' ∉ w) (inside : Bool) (t : Text) :
    startsWord w inside (crlf t) = startsWord w inside t := by
  rw [Bool.eq_iff_iff, startsWord_iff, startsWord_iff]
  refine and_congr_right fun _ => ?_
  simp only [crlf_eq_append_iff hreturn hline]
  constructor
  · rintro ⟨-, ⟨v, rfl, rfl⟩, hv⟩
    exact ⟨v, rfl, by rwa [head?_any_isWord_crlf] at hv⟩
  · rintro ⟨v, rfl, hv⟩
    exact ⟨crlf v, ⟨v, rfl, rfl⟩, by rwa [head?_any_isWord_crlf]⟩

/-- A whole word is found in the same place. -/
theorem cutAtWord?_crlf (hne : w ≠ []) (hreturn : '\r' ∉ w) (hline : '\n' ∉ w) (inside : Bool)
    (t : Text) :
    cutAtWord? w inside (crlf t) = (cutAtWord? w inside t).map (Prod.map crlf crlf) := by
  have hhead {d : Char} (hd : d ∉ w) : w.head? ≠ some d := fun h => hd (List.mem_of_mem_head? h)
  induction t generalizing inside with
  | nil => rfl
  | cons c cs ih =>
    by_cases hc : c = '\n'
    · -- The word is passed over at both characters of the line end.
      subst hc
      rw [crlf_newline, cutAtWord?_skip (hhead hreturn) hne rfl, cutAtWord?_skip (hhead hline) hne rfl,
        cutAtWord?_skip (hhead hline) hne rfl, ih, Option.map_map, Option.map_map, Option.map_map]
      rfl
    · have hstarts := startsWord_crlf hreturn hline inside (c :: cs)
      rw [crlf_cons hc] at hstarts ⊢
      rw [cutAtWord?_cons, cutAtWord?_cons, hstarts]
      split
      · rename_i hword
        obtain ⟨-, after, hafter, -⟩ := startsWord_iff.mp hword
        rw [← crlf_cons hc, hafter, crlf_append, crlf_of_not_mem hline, List.drop_left,
          List.drop_left]
        rfl
      · rw [ih, Option.map_map, Option.map_map]
        refine congrArg (Option.map · _) (funext fun x => ?_)
        rw [Function.comp_apply, Function.comp_apply, Prod.map, Prod.map, crlf_cons hc]

theorem hasWord_crlf (hne : w ≠ []) (hreturn : '\r' ∉ w) (hline : '\n' ∉ w) (t : Text) :
    hasWord w (crlf t) = hasWord w t := by
  rw [hasWord, hasWord, cutAtWord?_crlf hne hreturn hline, Option.isSome_map]

theorem words_crlf (t : Text) : words (crlf t) = words t := by
  induction t using line_induction with
  | nil => rfl
  | last s _ hs => rw [crlf_of_not_mem hs]
  | cons s u hs ih =>
    rw [crlf_line hs, words_append_blank rfl, words_append_blank rfl, words_cons_blank rfl, ih]

theorem lines_crlf (t : Text) : lines (crlf t) = (lines t).map crlf := by
  induction t using line_induction with
  | nil => rfl
  | last s hne hs => rw [crlf_of_not_mem hs, lines_of_not_mem hne hs, List.map_singleton,
      crlf_of_not_mem hs]
  | cons s u hs ih =>
    have hreturn : '\n' ∉ s ++ ['\r'] := by simpa using hs
    rw [crlf_line hs, lines_newline hs, List.map_cons, ← ih, crlf_line hs]
    simpa using lines_newline hreturn (crlf u)

theorem IsLine.bare (h : IsLine t) (he : ¬EndsLine t) : '\n' ∉ t := by
  rcases h.cases with ⟨s, -, rfl⟩ | hbare
  · exact absurd (endsLine_append s) he
  · exact hbare

theorem IsLine.crlf (h : IsLine t) : IsLine (Text.crlf t) := by
  rcases h.cases with ⟨s, hs, rfl⟩ | hbare
  · have hreturn : '\n' ∉ s ++ ['\r'] := by simpa using hs
    rw [crlf_line hs]
    simpa using isLine_append hreturn
  · rwa [crlf_of_not_mem hbare]

theorem EndsLine.crlf (h : EndsLine t) : EndsLine (Text.crlf t) := by
  rwa [EndsLine, getLast?_crlf]

theorem pieces_crlf {sep : Char} (hreturn : sep ≠ '\r') (hline : sep ≠ '\n') (t : Text) :
    pieces (· == sep) (crlf t) = (pieces (· == sep) t).map crlf := by
  induction t using separator_induction sep with
  | last s hs => rw [pieces_of_not_mem hs, pieces_of_not_mem ((mem_crlf hreturn).not.mpr hs),
      List.map_singleton]
  | cons s u hs ih =>
    rw [crlf_append, crlf_cons hline, pieces_separator ((mem_crlf hreturn).not.mpr hs),
      pieces_separator hs, ih, List.map_cons]

/-- Cut at line feeds, only the last piece lacks the carriage return. -/
theorem forall₂_pieces_crlf (t : Text) :
    List.Forall₂ (fun a b => b = a ∨ b = a ++ ['\r'])
      (pieces (· == '\n') t) (pieces (· == '\n') (crlf t)) := by
  induction t using separator_induction '\n' with
  | last s hs =>
    rw [crlf_of_not_mem hs, pieces_of_not_mem hs]
    exact .cons (.inl rfl) .nil
  | cons s u hs ih =>
    have hreturn : '\n' ∉ s ++ ['\r'] := by simpa using hs
    have hcut : pieces (· == '\n') (crlf (s ++ '\n' :: u)) =
        (s ++ ['\r']) :: pieces (· == '\n') (crlf u) := by
      rw [crlf_line hs]
      simpa using pieces_separator hreturn (crlf u)
    rw [hcut, pieces_separator hs]
    exact .cons (.inr rfl) ih

end Pruner.Text
