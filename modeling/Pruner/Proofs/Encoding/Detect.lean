import Pruner.Encoding.Detect
import Pruner.Proofs.Text.Lines

/-!
Which encoding is found for a file, and which of its lines decide about that.

A file with the same deciding lines asks for the same encoding. Lines of bytes are what the codecs make
of lines of text: a codec that stores one character after the other, and a line feed with a byte 10,
keeps the first lines.
-/
namespace Pruner.Encoding

open Pruner.Text

variable {codecs : Codecs} {bs x : Bytes}

theorem detect_eq_error_iff {limit : Option Nat} {e : CodecError} :
    detect codecs limit bs = .error e ↔
      codecs.read ((asked? codecs bs).getD fallback) limit bs = .error e ∧ e.isForeseen = false := by
  rw [detect]
  cases codecs.read ((asked? codecs bs).getD fallback) limit bs with
  | ok t => simp
  | error f =>
    dsimp only
    cases hforeseen : f.isForeseen with
    | true =>
      simp only [if_true, reduceCtorEq, Except.error.injEq, false_iff, not_and]
      rintro rfl
      simp [hforeseen]
    | false =>
      simp only [Bool.false_eq_true, if_false, Except.error.injEq, iff_self_and]
      rintro rfl
      exact hforeseen

/-- An encoding in which a file reads is found exactly if the file asks for it, or if it is the
fallback and the file cannot be read in what it asks for, for a reason that is foreseen. -/
theorem detect_eq_ok_iff {encoding t : Text} (h : codecs.read encoding none bs = .ok t) :
    detect codecs none bs = .ok encoding ↔
      (asked? codecs bs).getD fallback = encoding ∨
        encoding = fallback ∧ ∃ e,
          codecs.read ((asked? codecs bs).getD fallback) none bs = .error e ∧
            e.isForeseen = true := by
  rw [detect]
  cases hread : codecs.read ((asked? codecs bs).getD fallback) none bs with
  | ok u => simp
  | error e =>
    have hother : (asked? codecs bs).getD fallback ≠ encoding := by
      intro heq
      rw [heq, h] at hread
      cases hread
    rw [or_iff_right hother]
    dsimp only
    cases hforeseen : e.isForeseen with
    | true =>
      rw [if_pos rfl]
      constructor
      · intro hfound
        exact ⟨(Except.ok.inj hfound).symm, e, rfl, hforeseen⟩
      · rintro ⟨rfl, -⟩
        rfl
    | false => simp [hforeseen]

section Lines

/-- The first lines of bytes, each with its line feed. -/
def firstLines : Nat → Bytes → List Bytes
  | 0, _ => []
  | n + 1, bs => (splitLine bs).1 :: firstLines n (splitLine bs).2

theorem splitLine_newline (hx : 10 ∉ x) (y : Bytes) : splitLine (x ++ 10 :: y) = (x ++ [10], y) := by
  have hpos : ∀ b ∈ x, (b != 10) = true := by
    intro b hb
    rw [bne_iff_ne]
    rintro rfl
    exact hx hb
  rw [splitLine, List.takeWhile_append_of_pos hpos, List.dropWhile_append_of_pos hpos]
  simp

theorem splitLine_of_not_mem (hx : 10 ∉ x) : splitLine x = (x, []) := by
  have hpos : ∀ b ∈ x, (b != 10) = true := by
    intro b hb
    rw [bne_iff_ne]
    rintro rfl
    exact hx hb
  rw [splitLine, List.takeWhile_eq_self_iff.mpr hpos, List.dropWhile_eq_nil_iff.mpr hpos]

/-- A front with enough line feeds has the first lines. -/
theorem firstLines_append {n : Nat} (h : n ≤ x.count 10) (y y' : Bytes) :
    firstLines n (x ++ y') = firstLines n (x ++ y) := by
  induction n generalizing x with
  | zero => rfl
  | succ n ih =>
    have hmem : 10 ∈ x := List.count_pos_iff.mp (by omega)
    obtain ⟨line, rest, rfl, hline⟩ := List.eq_append_cons_of_mem hmem
    have hrest : n ≤ rest.count 10 := by
      rw [List.count_append, List.count_eq_zero_of_not_mem hline, List.count_cons_self] at h
      omega
    rw [List.append_assoc, List.append_assoc, List.cons_append, List.cons_append, firstLines,
      firstLines, splitLine_newline hline, splitLine_newline hline, ih hrest]

theorem isPrefixOf_line {w : Bytes} (hw : 10 ∉ w) (x y : Bytes) :
    w.isPrefixOf (x ++ 10 :: y) = w.isPrefixOf x := by
  induction w generalizing x with
  | nil => rfl
  | cons a w ih =>
    rw [List.mem_cons, not_or] at hw
    cases x with
    | nil =>
      have hne : (a == 10) = false := by simpa using Ne.symm hw.1
      change (a == 10 && w.isPrefixOf y) = false
      rw [hne]
      rfl
    | cons b x => rw [List.cons_append, List.isPrefixOf, List.isPrefixOf, ih hw.2]

/-- The bytes after the signature, if there is one. -/
def afterSignature (bs : Bytes) : Bytes :=
  if Utf8.signature.isPrefixOf bs then bs.drop 3 else bs

/-- A signature does not reach into the second line. -/
theorem afterSignature_line (x y : Bytes) :
    afterSignature (x ++ 10 :: y) = afterSignature x ++ 10 :: y := by
  rw [afterSignature, afterSignature, isPrefixOf_line (by decide)]
  split
  · rename_i hsigned
    have hlength : 3 ≤ x.length := (List.isPrefixOf_iff_prefix.mp hsigned).length_le
    rw [List.drop_append_of_le_length hlength]
  · rfl

theorem not_mem_afterSignature {b : UInt8} (h : b ∉ x) : b ∉ afterSignature x := by
  rw [afterSignature]
  split
  · exact fun hmem => h (List.mem_of_mem_drop hmem)
  · exact h

/-- Whether there is a signature, and the lines after it, can be told from the first line. -/
theorem splitLine_afterSignature (bs : Bytes) :
    Utf8.signature.isPrefixOf bs = Utf8.signature.isPrefixOf (splitLine bs).1 ∧
      splitLine (afterSignature bs) = (afterSignature (splitLine bs).1, (splitLine bs).2) := by
  by_cases h : 10 ∈ bs
  · obtain ⟨line, rest, rfl, hline⟩ := List.eq_append_cons_of_mem h
    rw [splitLine_newline hline, afterSignature_line, afterSignature_line,
      splitLine_newline (not_mem_afterSignature hline), isPrefixOf_line (by decide),
      isPrefixOf_line (by decide)]
    exact ⟨rfl, rfl⟩
  · rw [splitLine_of_not_mem h, splitLine_of_not_mem (not_mem_afterSignature h)]
    exact ⟨rfl, rfl⟩

end Lines

section Asked

/-- What two lines ask for. -/
def askedIn? (codecs : Codecs) (signed : Bool) (first second : Bytes) : Option Text :=
  let usual := if signed then "utf-8-sig".toList else "utf-8".toList
  match cookie? first with
  | some cookie => ofCookie? codecs signed cookie
  | none =>
    if first.isEmpty || !isIdle first then some usual
    else
      match cookie? second with
      | some cookie => ofCookie? codecs signed cookie
      | none => some usual

theorem asked?_eq (codecs : Codecs) (bs : Bytes) : asked? codecs bs =
    askedIn? codecs (Utf8.signature.isPrefixOf (splitLine bs).1)
      (afterSignature (splitLine bs).1) (splitLine (splitLine bs).2).1 := by
  obtain ⟨hsigned, hlines⟩ := splitLine_afterSignature bs
  have hasked : asked? codecs bs = askedIn? codecs (Utf8.signature.isPrefixOf bs)
      (splitLine (afterSignature bs)).1 (splitLine (splitLine (afterSignature bs)).2).1 := rfl
  rw [hasked, hsigned, hlines]

/-- The second line has no say if the first one names a codec or is neither blank nor a comment. -/
theorem askedIn?_of_first {first : Bytes}
    (h : (cookie? first).isSome = true ∨ isIdle first = false) (signed : Bool)
    (second second' : Bytes) :
    askedIn? codecs signed first second = askedIn? codecs signed first second' := by
  rw [askedIn?, askedIn?]
  cases hcookie : cookie? first with
  | some cookie => rfl
  | none =>
    have hbusy : isIdle first = false := h.resolve_left (by simp [hcookie])
    dsimp only
    rw [hbusy, Bool.not_false, Bool.or_true, if_pos rfl, if_pos rfl]

/-- How many lines decide about the encoding: two if the first one is blank or a comment and names no
codec. -/
def deciding (content : Bytes) : Nat :=
  let first := afterSignature (splitLine content).1
  if (cookie? first).isSome || !isIdle first then 1 else 2

/-- Files with the same deciding lines ask for the same encoding. -/
theorem asked?_of_firstLines {content written : Bytes}
    (h : firstLines (deciding content) written = firstLines (deciding content) content) :
    asked? codecs written = asked? codecs content := by
  rw [deciding] at h
  rw [asked?_eq, asked?_eq]
  split at h
  · rename_i hdecides
    rw [Bool.or_eq_true, Bool.not_eq_true'] at hdecides
    have hfirst : (splitLine written).1 = (splitLine content).1 := (List.cons.inj h).1
    rw [hfirst]
    exact askedIn?_of_first hdecides _ _ _
  · have hfirst : (splitLine written).1 = (splitLine content).1 := (List.cons.inj h).1
    have hsecond : (splitLine (splitLine written).2).1 = (splitLine (splitLine content).2).1 :=
      (List.cons.inj (List.cons.inj h).2).1
    rw [hfirst, hsecond]

end Asked

end Pruner.Encoding

namespace Pruner.Codec

open Pruner.Text Pruner.Encoding

/-- Texts with the same first lines are stored as bytes with the same first lines. -/
def KeepsLines (codec : Codec) : Prop :=
  ∀ (n : Nat) (t t' : Text) (bs bs' : Bytes), codec.store t = .ok bs → codec.store t' = .ok bs' →
    (lines t').take n = (lines t).take n → firstLines n bs' = firstLines n bs

/-- Two texts with the same first line. -/
theorem take_one_lines {t t' : Text} (h : (lines t').take 1 = (lines t).take 1) :
    t' = t ∨ ∃ s r r', '\n' ∉ s ∧ t = s ++ '\n' :: r ∧ t' = s ++ '\n' :: r' := by
  have hflatten := lines_flatten t'
  cases hlines : lines t' with
  | nil =>
    rw [hlines, List.take_nil, eq_comm] at h
    have hnil : lines t = [] := by simpa using h
    have ht : t = [] := by rw [← lines_flatten t, hnil, List.flatten_nil]
    have ht' : t' = [] := by rw [← hflatten, hlines, List.flatten_nil]
    exact Or.inl (by rw [ht, ht'])
  | cons l more =>
    rw [hlines, List.flatten_cons] at hflatten
    rw [hlines, List.take_succ_cons, List.take_zero] at h
    by_cases hmem : '\n' ∈ t
    · obtain ⟨s, r, rfl, hs⟩ := List.eq_append_cons_of_mem hmem
      rw [lines_newline hs, List.take_succ_cons, List.take_zero, List.cons.injEq] at h
      refine Or.inr ⟨s, r, more.flatten, hs, rfl, ?_⟩
      rw [← hflatten, h.1, List.append_assoc, List.singleton_append]
    · left
      have hne : t ≠ [] := by
        rintro rfl
        simp at h
      rw [lines_of_not_mem hne hmem, List.take_succ_cons, List.take_zero, List.cons.injEq] at h
      obtain ⟨rfl, -⟩ := h
      -- A line without its line feed is the last one.
      have hmore : more = [] := by
        have hlined := lined_lines t'
        rw [hlines] at hlined
        cases more with
        | nil => rfl
        | cons m ms => exact absurd (List.mem_of_mem_getLast? hlined.head_ended) hmem
      rw [← hflatten, hmore, List.flatten_nil, List.append_nil]

/-- Two texts with the same first lines are the same, or have a front in common that holds these
lines. -/
theorem eq_or_common_front {n : Nat} {t t' : Text} (h : (lines t').take n = (lines t).take n) :
    t' = t ∨ ∃ s r r', n ≤ s.count '\n' ∧ t = s ++ r ∧ t' = s ++ r' := by
  induction n generalizing t t' with
  | zero => exact Or.inr ⟨[], t, t', Nat.zero_le _, rfl, rfl⟩
  | succ n ih =>
    have hfirst : (lines t').take 1 = (lines t).take 1 := by
      simpa [List.take_take] using congrArg (List.take 1) h
    rcases take_one_lines hfirst with rfl | ⟨s, r, r', hs, rfl, rfl⟩
    · exact Or.inl rfl
    · rw [lines_newline hs, lines_newline hs, List.take_succ_cons, List.take_succ_cons,
        List.cons.injEq] at h
      rcases ih h.2 with rfl | ⟨front, u, u', hfront, rfl, rfl⟩
      · exact Or.inl rfl
      · refine Or.inr ⟨s ++ '\n' :: front, u, u', ?_, by simp, by simp⟩
        rw [List.count_append, List.count_cons_self]
        omega

/-- What it takes to keep lines: the bytes of a text are those of its parts, after a mark, and a line
feed has a byte 10 among its own. -/
theorem keepsLines_of_append {codec : Codec} (mark : Bytes) (body? : Text → Option Bytes)
    (hstore : ∀ t bs, codec.store t = .ok bs → ∃ b, body? t = some b ∧ bs = mark ++ b)
    (happend : ∀ t u b, body? (t ++ u) = some b →
      ∃ x y, body? t = some x ∧ body? u = some y ∧ b = x ++ y)
    (hnewline : ∀ b, body? ['\n'] = some b → 10 ∈ b) : codec.KeepsLines := by
  have hcount (t : Text) (b : Bytes) (hb : body? t = some b) : t.count '\n' ≤ b.count 10 := by
    induction t generalizing b with
    | nil => exact Nat.zero_le _
    | cons c t ih =>
      obtain ⟨x, y, hx, hy, rfl⟩ := happend [c] t b hb
      have hrest := ih y hy
      rw [List.count_append, List.count_cons]
      split
      · rename_i hc
        rw [beq_iff_eq] at hc
        have hten : 0 < x.count 10 := List.count_pos_iff.mpr (hnewline x (hc ▸ hx))
        omega
      · omega
  intro n t t' bs bs' hbs hbs' h
  rcases eq_or_common_front h with rfl | ⟨s, r, r', hs, rfl, rfl⟩
  · rw [Except.ok.inj (hbs.symm.trans hbs')]
  · obtain ⟨b, hb, rfl⟩ := hstore _ _ hbs
    obtain ⟨b', hb', rfl⟩ := hstore _ _ hbs'
    obtain ⟨front, y, hfront, -, rfl⟩ := happend _ _ _ hb
    obtain ⟨front', y', hfront', -, rfl⟩ := happend _ _ _ hb'
    obtain rfl : front = front' := Option.some.inj (hfront.symm.trans hfront')
    rw [← List.append_assoc, ← List.append_assoc]
    apply firstLines_append
    rw [List.count_append]
    have hlines := hcount s front hfront
    omega

end Pruner.Codec
