import Pruner.Proofs.Text.Blank
import Pruner.Proofs.Text.Pieces
import Mathlib.Data.List.Basic

namespace Pruner.Text

/-- A text with exactly one line: it is not empty, and a line feed can only be its last character. -/
structure IsLine (l : Text) : Prop where
  ne_nil : l ≠ []
  newline_last : '\n' ∉ l.dropLast

/-- The line feed is there. -/
def EndsLine (l : Text) : Prop :=
  l.getLast? = some '\n'

/-- A list of lines of which only the last may lack its line feed. -/
structure Lined (ls : List Text) : Prop where
  line : ∀ l ∈ ls, IsLine l
  ended : ls.Pairwise fun l _ => EndsLine l

theorem endsLine_append (s : Text) : EndsLine (s ++ ['\n']) := by
  simp [EndsLine]

theorem isLine_append {s : Text} (h : '\n' ∉ s) : IsLine (s ++ ['\n']) :=
  ⟨by simp, by simpa using h⟩

theorem isLine_of_not_mem {s : Text} (hne : s ≠ []) (h : '\n' ∉ s) : IsLine s :=
  ⟨hne, fun hmem => h (List.dropLast_subset s hmem)⟩

/-- A line is its text with or without a line feed. -/
theorem IsLine.cases {l : Text} (h : IsLine l) :
    (∃ s, '\n' ∉ s ∧ l = s ++ ['\n']) ∨ '\n' ∉ l := by
  obtain ⟨s, c, rfl⟩ : ∃ s c, l = s ++ [c] :=
    ⟨l.dropLast, l.getLast h.ne_nil, (List.dropLast_append_getLast h.ne_nil).symm⟩
  have hs : '\n' ∉ s := by simpa using h.newline_last
  by_cases hc : c = '\n'
  · exact Or.inl ⟨s, hs, by rw [hc]⟩
  · exact Or.inr (by simp [hs, Ne.symm hc])

theorem Lined.nil : Lined [] :=
  ⟨by simp, List.Pairwise.nil⟩

theorem Lined.singleton {l : Text} (h : IsLine l) : Lined [l] :=
  ⟨by simpa using h, List.pairwise_singleton _ _⟩

theorem Lined.cons {l : Text} {ls : List Text} (hl : IsLine l) (he : EndsLine l)
    (hls : Lined ls) : Lined (l :: ls) := by
  refine ⟨?_, List.pairwise_cons.mpr ⟨fun _ _ => he, hls.ended⟩⟩
  intro m hm
  rcases List.mem_cons.mp hm with rfl | hm
  · exact hl
  · exact hls.line m hm

theorem Lined.tail {l : Text} {ls : List Text} (h : Lined (l :: ls)) : Lined ls :=
  ⟨fun m hm => h.line m (List.mem_cons_of_mem l hm), (List.pairwise_cons.mp h.ended).2⟩

theorem Lined.head_ended {l m : Text} {ls : List Text} (h : Lined (l :: m :: ls)) : EndsLine l :=
  (List.pairwise_cons.mp h.ended).1 m (by simp)

theorem Lined.sublist {ls ms : List Text} (hms : Lined ms) (h : ls.Sublist ms) : Lined ls :=
  ⟨fun l hl => hms.line l (h.subset hl), hms.ended.sublist h⟩

theorem Lined.of_forall {ls : List Text} (h : ∀ l ∈ ls, IsLine l ∧ EndsLine l) : Lined ls :=
  ⟨fun l hl => (h l hl).1, List.pairwise_of_forall_mem_list fun l hl _ _ => (h l hl).2⟩

theorem lines_go_append {s : Text} (h : '\n' ∉ s) (held t : Text) :
    lines.go held (s ++ t) = lines.go (s.reverse ++ held) t := by
  induction s generalizing held with
  | nil => rfl
  | cons c cs ih =>
    simp only [List.mem_cons, not_or] at h
    have hc : (c == '\n') = false := by simpa using Ne.symm h.1
    rw [List.cons_append, lines.go, if_neg (by simp [hc]), ih h.2]
    simp

@[simp] theorem lines_nil : lines [] = [] := rfl

theorem lines_newline {s : Text} (h : '\n' ∉ s) (t : Text) :
    lines (s ++ '\n' :: t) = (s ++ ['\n']) :: lines t := by
  rw [lines, lines_go_append h, lines.go]
  simp [lines]

theorem lines_of_not_mem {s : Text} (hne : s ≠ []) (h : '\n' ∉ s) : lines s = [s] := by
  have hgo := lines_go_append h [] []
  rw [List.append_nil] at hgo
  rw [lines, hgo, lines.go]
  simp [hne]

/-- To prove something of every text, prove it of a text without a line feed and carry it from a
text to the text with one more line in front. -/
theorem line_induction {P : Text → Prop} (nil : P [])
    (last : ∀ s, s ≠ [] → '\n' ∉ s → P s)
    (cons : ∀ s t, '\n' ∉ s → P t → P (s ++ '\n' :: t)) (t : Text) : P t := by
  apply separator_induction '\n' _ cons
  intro s hs
  by_cases hne : s = []
  · rw [hne]
    exact nil
  · exact last s hne hs

theorem lines_flatten (t : Text) : (lines t).flatten = t := by
  induction t using line_induction with
  | nil => rfl
  | last s hne hs => simp [lines_of_not_mem hne hs]
  | cons s t hs ih => simp [lines_newline hs, ih]

theorem lined_lines (t : Text) : Lined (lines t) := by
  induction t using line_induction with
  | nil => exact Lined.nil
  | last s hne hs =>
    rw [lines_of_not_mem hne hs]
    exact Lined.singleton (isLine_of_not_mem hne hs)
  | cons s t hs ih =>
    rw [lines_newline hs]
    exact Lined.cons (isLine_append hs) (endsLine_append s) ih

theorem IsLine.lines_append {l : Text} (h : IsLine l) (he : EndsLine l) (t : Text) :
    lines (l ++ t) = l :: lines t := by
  rcases h.cases with ⟨s, hs, rfl⟩ | hmem
  · rw [List.append_assoc, List.singleton_append, lines_newline hs]
  · exact absurd (List.mem_of_getLast? he) hmem

theorem IsLine.lines_eq {l : Text} (h : IsLine l) : lines l = [l] := by
  rcases h.cases with ⟨s, hs, rfl⟩ | hmem
  · rw [lines_newline hs, lines_nil]
  · exact lines_of_not_mem h.ne_nil hmem

/-- Lines that are put together are cut at the same places. -/
theorem lines_flatten_of_lined {ls : List Text} (h : Lined ls) : lines ls.flatten = ls := by
  induction ls with
  | nil => rfl
  | cons l ls ih =>
    have hl : IsLine l := h.line l (by simp)
    cases ls with
    | nil => simpa using hl.lines_eq
    | cons m ms => rw [List.flatten_cons, hl.lines_append h.head_ended, ih h.tail]

/-- A text that ends with a line feed, or is empty, can be cut off without merging lines. -/
theorem lines_append {a : Text} (ha : a = [] ∨ EndsLine a) (b : Text) :
    lines (a ++ b) = lines a ++ lines b := by
  induction a using line_induction with
  | nil => rfl
  | last s hne hs =>
    rcases ha with ha | ha
    · exact absurd ha hne
    · exact absurd (List.mem_of_getLast? ha) hs
  | cons s t hs ih =>
    have ht : t = [] ∨ EndsLine t := by
      by_cases hne : t = []
      · exact Or.inl hne
      · refine Or.inr ?_
        rcases ha with ha | ha
        · simp at ha
        · rwa [EndsLine, ← List.singleton_append, ← List.append_assoc,
            List.getLast?_append_of_ne_nil _ hne] at ha
    rw [List.append_assoc, List.cons_append, lines_newline hs, lines_newline hs, ih ht]
    rfl

/-- A text put in front of a first line that it does not end. -/
theorem lines_append_left {a l : Text} {ls : List Text} {t : Text} (ha : '\n' ∉ a)
    (h : lines t = l :: ls) : lines (a ++ t) = (a ++ l) :: ls := by
  have hlined := lined_lines t
  have ht : t = l ++ ls.flatten := by
    rw [← lines_flatten t, h, List.flatten_cons]
  rw [h] at hlined
  have hl := hlined.line l (by simp)
  have hal : IsLine (a ++ l) := by
    refine ⟨by simp [hl.ne_nil], ?_⟩
    rw [List.dropLast_append_of_ne_nil hl.ne_nil, List.mem_append, not_or]
    exact ⟨ha, hl.newline_last⟩
  cases ls with
  | nil =>
    rw [ht, List.flatten_nil, List.append_nil, hal.lines_eq]
  | cons m ms =>
    have hend : EndsLine (a ++ l) := by
      rw [EndsLine, List.getLast?_append_of_ne_nil _ hl.ne_nil]
      exact hlined.head_ended
    rw [ht, ← List.append_assoc, hal.lines_append hend, lines_flatten_of_lined hlined.tail]

/-- In a text that ends with a line feed every line does. -/
theorem endsLine_of_mem_lines {t l : Text} (ht : t = [] ∨ EndsLine t) (hl : l ∈ lines t) :
    EndsLine l := by
  have hlined := lined_lines t
  obtain ⟨ms, ns, hsplit⟩ := List.append_of_mem hl
  cases ns with
  | cons n ns =>
    rw [hsplit] at hlined
    exact (hlined.sublist (List.sublist_append_right ms _)).head_ended
  | nil =>
    have hne : l ≠ [] := (hlined.line l hl).ne_nil
    have hflat : t = ms.flatten ++ l := by
      rw [← lines_flatten t, hsplit, List.flatten_append, List.flatten_singleton]
    rw [hflat] at ht
    rcases ht with hnil | hend
    · exact absurd (List.append_eq_nil_iff.mp hnil).2 hne
    · rwa [EndsLine, List.getLast?_append_of_ne_nil _ hne] at hend

theorem ended_flatten {ls : List Text} (h : ∀ l ∈ ls, EndsLine l) :
    ls.flatten = [] ∨ EndsLine ls.flatten := by
  rcases List.eq_nil_or_concat ls with rfl | ⟨ms, l, rfl⟩
  · exact Or.inl rfl
  · have hl : EndsLine l := h l (by simp)
    have hne : l ≠ [] := by
      rintro rfl
      simp [EndsLine] at hl
    refine Or.inr ?_
    rwa [List.concat_eq_append, List.flatten_append, List.flatten_singleton, EndsLine,
      List.getLast?_append_of_ne_nil _ hne]


/-- The line feed of a line is part of its ending. -/
theorem EndsLine.append_ending {l : Text} (h : EndsLine l) (x : Text) :
    EndsLine (x ++ Line.ending l) := by
  have hne : Line.ending l ≠ [] := by
    intro hnil
    have hsplit := trimRight_append_ending l
    rw [hnil, List.append_nil] at hsplit
    have hblank := trimRight_last l '\n' (by rw [hsplit]; exact h)
    simp [isBlank] at hblank
  rw [← trimRight_append_ending l, EndsLine, List.getLast?_append_of_ne_nil _ hne] at h
  rwa [EndsLine, List.getLast?_append_of_ne_nil _ hne]

/-- Inside a line, a text that ends with a visible character has no line feed. -/
theorem IsLine.newline_not_mem {l t : Text} (hl : IsLine l) (ht : t <:+: l) (hs : Solid t) :
    '\n' ∉ t := by
  intro hmem
  obtain ⟨u, v, rfl⟩ := ht
  obtain ⟨s, r, rfl⟩ := List.append_of_mem hmem
  by_cases hr : r = []
  · have hlast := hs.last '\n' (by simp [hr])
    simp [isBlank] at hlast
  · apply hl.newline_last
    have hsplit : u ++ (s ++ '\n' :: r) ++ v = (u ++ s ++ ['\n']) ++ (r ++ v) := by simp
    rw [hsplit, List.dropLast_append_of_ne_nil (by simp [hr])]
    simp

theorem IsLine.append_ending {l x : Text} (hl : IsLine l) (hx : '\n' ∉ x) (hne : x ≠ []) :
    IsLine (x ++ Line.ending l) := by
  refine ⟨by simp [hne], ?_⟩
  by_cases hend : Line.ending l = []
  · rw [hend, List.append_nil]
    exact fun hmem => hx (List.dropLast_subset x hmem)
  · have hlast := hl.newline_last
    rw [← trimRight_append_ending l, List.dropLast_append_of_ne_nil hend] at hlast
    rw [List.dropLast_append_of_ne_nil hend]
    simp only [List.mem_append, not_or] at hlast ⊢
    exact ⟨hx, hlast.2⟩

end Pruner.Text
