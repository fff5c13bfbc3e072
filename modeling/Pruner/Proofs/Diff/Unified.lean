import Pruner.Encoding.Charset
import Pruner.Proofs.Command.Run
import Pruner.Proofs.Diff.Alignment
import Pruner.Proofs.Diff.Patch

namespace Pruner.Diff

open Pruner.Text

/-- Hunks that cover all changes between two lists of lines, from places on up to which so many lines
of each were passed. -/
inductive Covers : (passed written : Nat) → List Hunk → (old new : List Text) → Prop
  | done (passed written : Nat) (rest : List Text) : Covers passed written [] rest rest
  | hunk {passed written : Nat} {hs : List Hunk} {old new : List Text} (gap : List Text) (h : Hunk) :
      h.oldStart = passed + gap.length → h.newStart = written + gap.length →
      Covers (h.oldStart + h.old.length) (h.newStart + h.new.length) hs old new →
      Covers passed written (h :: hs) (gap ++ h.old ++ old) (gap ++ h.new ++ new)

section Hunks

theorem old_eq_new_of_kept {chunks : List (Chunk Text)} (h : chunks.any Chunk.isChange = false) :
    chunks.flatMap Chunk.old = chunks.flatMap Chunk.new := by
  apply List.flatMap_congr
  intro chunk hmem
  have hkept := List.any_eq_false.mp h chunk hmem
  cases chunk with
  | keep items => rfl
  | change old new => simp [Chunk.isChange] at hkept

/-- Lines that leave no context in common are cut into the context of one hunk, a gap and the context
of the next. -/
theorem context_gap_context {ls : List Text} (h : ls.length > 2 * context) :
    ls = ls.take context ++
      ((ls.drop context).take (ls.length - 2 * context) ++ ls.drop (ls.length - context)) := by
  have hmiddle : ls.drop (ls.length - context) =
      (ls.drop context).drop (ls.length - 2 * context) := by
    rw [List.drop_drop]
    congr 1
    omega
  rw [hmiddle, List.take_append_drop, List.take_append_drop]

/-- Cutting parts into hunks covers what was held back and what is still to come, after a gap and
before a tail that both files share. -/
theorem covers_cut (passed written : Nat) (gap tail : List Text) (held chunks : List (Chunk Text)) :
    Covers passed written (cut (passed + gap.length) (written + gap.length) held chunks)
      (gap ++ (held ++ chunks).flatMap Chunk.old ++ tail)
      (gap ++ (held ++ chunks).flatMap Chunk.new ++ tail) := by
  induction chunks generalizing passed written gap held with
  | nil =>
    rw [cut, List.append_nil]
    split
    · exact Covers.hunk gap ⟨_, _, held⟩ rfl rfl (Covers.done _ _ tail)
    · rename_i hkept
      rw [old_eq_new_of_kept (by simpa using hkept)]
      exact Covers.done _ _ _
  | cons chunk rest ih =>
    have hmove : held ++ chunk :: rest = held ++ [chunk] ++ rest := by simp
    cases chunk with
    | change old new =>
      rw [cut, hmove]
      exact ih passed written gap (held ++ [.change old new])
    | keep ls =>
      rw [cut]
      split
      · rename_i hlong
        -- The hunk ends with the first context, and the next one starts with the second.
        let middle := (ls.drop context).take (ls.length - 2 * context)
        let first : List (Chunk Text) := held ++ [.keep (ls.take context)]
        let second : List (Chunk Text) := [.keep (ls.drop (ls.length - context))]
        have hlines (f : Chunk Text → List Text) (hf : ∀ items, f (.keep items) = items) :
            gap ++ first.flatMap f ++ (middle ++ (second ++ rest).flatMap f ++ tail) =
              gap ++ (held ++ .keep ls :: rest).flatMap f ++ tail := by
          have hsplit : ls = ls.take context ++ (middle ++ ls.drop (ls.length - context)) :=
            context_gap_context hlong
          conv_rhs => rw [hsplit]
          simp [first, second, hf]
        have hlength (f : Chunk Text → List Text) (hf : ∀ items, f (.keep items) = items) :
            (first.flatMap f).length + middle.length =
              (held.flatMap f).length + (ls.length - context) := by
          simp only [first, middle, List.flatMap_append, List.flatMap_singleton, hf,
            List.length_append, List.length_take, List.length_drop]
          omega
        have hnext := ih (passed + gap.length + (first.flatMap Chunk.old).length)
          (written + gap.length + (first.flatMap Chunk.new).length) middle second
        rw [Nat.add_assoc _ (first.flatMap Chunk.old).length,
          Nat.add_assoc _ (first.flatMap Chunk.new).length, hlength Chunk.old fun _ => rfl,
          hlength Chunk.new fun _ => rfl, ← Nat.add_assoc, ← Nat.add_assoc] at hnext
        rw [← hlines Chunk.old fun _ => rfl, ← hlines Chunk.new fun _ => rfl]
        exact Covers.hunk gap ⟨_, _, first⟩ rfl rfl hnext
      · rw [hmove]
        exact ih passed written gap (held ++ [.keep ls])

/-- Only lines that both files share are cut off at the end. -/
theorem exists_trimLast (chunks : List (Chunk Text)) :
    ∃ tail, chunks.flatMap Chunk.old = (trimLast chunks).flatMap Chunk.old ++ tail ∧
      chunks.flatMap Chunk.new = (trimLast chunks).flatMap Chunk.new ++ tail := by
  induction chunks using trimLast.induct with
  | case1 => exact ⟨[], rfl, rfl⟩
  | case2 ls =>
    exact ⟨ls.drop context, by simp [trimLast, Chunk.old], by simp [trimLast, Chunk.new]⟩
  | case3 chunk rest hnot ih =>
    obtain ⟨tail, hold, hnew⟩ := ih
    refine ⟨tail, ?_, ?_⟩
    · rw [trimLast, List.flatMap_cons, List.flatMap_cons, hold, List.append_assoc]
      exact hnot
    · rw [trimLast, List.flatMap_cons, List.flatMap_cons, hnew, List.append_assoc]
      exact hnot

/-- The hunks of an alignment cover its changes. -/
theorem covers_hunks (chunks : List (Chunk Text)) :
    Covers 0 0 (hunks chunks) (chunks.flatMap Chunk.old) (chunks.flatMap Chunk.new) := by
  obtain ⟨tail, hold, hnew⟩ := exists_trimLast chunks
  rw [hold, hnew, hunks]
  split
  · rename_i ls rest htrim
    -- Of the lines before the first change only the context is shown.
    have hcut := covers_cut 0 0 (ls.take (ls.length - context)) tail
      [.keep (ls.drop (ls.length - context))] rest
    have hskipped : 0 + (ls.take (ls.length - context)).length = ls.length - context := by
      rw [List.length_take]
      omega
    have hlines (f : Chunk Text → List Text) (hf : ∀ items, f (.keep items) = items) :
        ls.take (ls.length - context) ++
          ([Chunk.keep (ls.drop (ls.length - context))] ++ rest).flatMap f ++ tail =
        (Chunk.keep ls :: rest).flatMap f ++ tail := by
      rw [List.singleton_append, List.flatMap_cons, List.flatMap_cons, hf, hf, ← List.append_assoc,
        List.take_append_drop]
    rw [hskipped, hlines Chunk.old fun _ => rfl, hlines Chunk.new fun _ => rfl] at hcut
    rw [htrim]
    exact hcut
  · exact covers_cut 0 0 [] tail [] (trimLast chunks)

theorem Covers.mem {passed written : Nat} {hs : List Hunk} {old new : List Text}
    (h : Covers passed written hs old new) :
    ∀ hunk ∈ hs, (∀ l ∈ hunk.old, l ∈ old) ∧ ∀ l ∈ hunk.new, l ∈ new := by
  induction h with
  | done => simp
  | hunk gap first _ _ _ ih =>
    intro hunk hmem
    rcases List.mem_cons.mp hmem with rfl | hmem
    · refine ⟨fun l hl => ?_, fun l hl => ?_⟩
      · simp [hl]
      · simp [hl]
    · obtain ⟨hold, hnew⟩ := ih hunk hmem
      refine ⟨fun l hl => ?_, fun l hl => ?_⟩
      · simp [hold l hl]
      · simp [hnew l hl]

end Hunks

section Patching

namespace Progress

variable (left written : List Text) (passed old new : Nat)

theorem step_keep (l : Text) : step ⟨l :: left, written, passed, old + 1, new + 1⟩ (' ' :: l) =
    some ⟨left, written ++ [l], passed + 1, old, new⟩ := by
  simp [step, advance]

theorem step_remove (l : Text) : step ⟨l :: left, written, passed, old + 1, new⟩ ('-' :: l) =
    some ⟨left, written, passed + 1, old, new⟩ := by
  simp [step, advance]

theorem step_add (l : Text) : step ⟨left, written, passed, old, new + 1⟩ ('+' :: l) =
    some ⟨left, written ++ [l], passed, old, new⟩ := by
  simp [step, advance]

theorem run_keep (items : List Text) :
    (items.map (' ' :: ·)).foldlM step
        ⟨items ++ left, written, passed, items.length + old, items.length + new⟩ =
      some ⟨left, written ++ items, passed + items.length, old, new⟩ := by
  induction items generalizing written passed with
  | nil => simp
  | cons l items ih =>
    rw [List.map_cons, List.foldlM_cons, List.length_cons, Nat.add_right_comm _ 1,
      Nat.add_right_comm _ 1, List.cons_append, step_keep, Option.bind_eq_bind, Option.bind_some, ih]
    simp [Nat.add_assoc, Nat.add_comm 1]

theorem run_remove (items : List Text) :
    (items.map ('-' :: ·)).foldlM step ⟨items ++ left, written, passed, items.length + old, new⟩ =
      some ⟨left, written, passed + items.length, old, new⟩ := by
  induction items generalizing passed with
  | nil => simp
  | cons l items ih =>
    rw [List.map_cons, List.foldlM_cons, List.length_cons, Nat.add_right_comm _ 1,
      List.cons_append, step_remove, Option.bind_eq_bind, Option.bind_some, ih]
    simp [Nat.add_assoc, Nat.add_comm 1]

theorem run_add (items : List Text) :
    (items.map ('+' :: ·)).foldlM step ⟨left, written, passed, old, items.length + new⟩ =
      some ⟨left, written ++ items, passed, old, new⟩ := by
  induction items generalizing written with
  | nil => simp
  | cons l items ih =>
    rw [List.map_cons, List.foldlM_cons, List.length_cons, Nat.add_right_comm _ 1, step_add,
      Option.bind_eq_bind, Option.bind_some, ih]
    simp

/-- The lines of a hunk take its old lines away and write its new ones. -/
theorem run_body (h : Hunk) :
    h.body.foldlM step
        ⟨h.old ++ left, written, passed, h.old.length + old, h.new.length + new⟩ =
      some ⟨left, written ++ h.new, passed + h.old.length, old, new⟩ := by
  obtain ⟨oldStart, newStart, chunks⟩ := h
  simp only [Hunk.body, Hunk.old, Hunk.new]
  induction chunks generalizing written passed with
  | nil => simp
  | cons chunk chunks ih =>
    simp only [List.flatMap_cons, List.foldlM_append, List.length_append, List.append_assoc,
      Nat.add_assoc]
    cases chunk with
    | keep items =>
      simp only [Chunk.old, Chunk.new]
      rw [run_keep, Option.bind_eq_bind, Option.bind_some, ih]
      simp [Nat.add_assoc]
    | change removed added =>
      simp only [Chunk.old, Chunk.new, List.foldlM_append]
      rw [run_remove, Option.bind_eq_bind, Option.bind_some, run_add, Option.bind_some, ih]
      simp [Nat.add_assoc]

/-- The header of a hunk leads to the hunk, past the lines before it. -/
theorem step_header {gap : List Text} {h : Hunk} (hold : h.oldStart = passed + gap.length)
    (hnew : h.newStart = written.length + gap.length) :
    step ⟨gap ++ left, written, passed, 0, 0⟩ h.header =
      some ⟨left, written ++ gap, h.oldStart, h.old.length, h.new.length⟩ := by
  have hskipped : h.oldStart - passed = gap.length := by omega
  have hfits : passed ≤ h.oldStart ∧ gap.length ≤ (gap ++ left).length ∧
      written.length + gap.length = h.newStart := by
    rw [List.length_append]
    omega
  rw [step, if_pos ⟨rfl, rfl⟩, readHeader?_header, Option.bind_eq_bind, Option.bind_some]
  dsimp only
  rw [enter]
  dsimp only
  rw [hskipped, if_pos hfits, List.drop_left, List.take_left]

end Progress

/-- Hunks that cover the changes, read from the places where they start, write the new lines. -/
theorem Covers.run {passed count : Nat} {hs : List Hunk} {old new written : List Text}
    (h : Covers passed count hs old new) (hcount : written.length = count) :
    ∃ p : Progress, (hs.flatMap fun h => h.header :: h.body).foldlM Progress.step
        ⟨old, written, passed, 0, 0⟩ = some p ∧
      p.oldDue = 0 ∧ p.newDue = 0 ∧ p.written ++ p.left = written ++ new := by
  induction h generalizing written with
  | done passed count rest => exact ⟨⟨rest, written, passed, 0, 0⟩, rfl, rfl, rfl, rfl⟩
  | @hunk passed count hs old new gap first hold hnew _ ih =>
    have hbody : first.body.foldlM Progress.step
        ⟨first.old ++ old, written ++ gap, first.oldStart, first.old.length, first.new.length⟩ =
          some ⟨old, written ++ gap ++ first.new, first.oldStart + first.old.length, 0, 0⟩ :=
      Progress.run_body old (written ++ gap) first.oldStart 0 0 first
    have hwritten : (written ++ gap ++ first.new).length = first.newStart + first.new.length := by
      rw [List.length_append, List.length_append, hcount, hnew]
    obtain ⟨p, hrun, hdue, hdue', hlines⟩ := ih hwritten
    refine ⟨p, ?_, hdue, hdue', ?_⟩
    · rw [List.flatMap_cons, List.cons_append, List.foldlM_cons, List.append_assoc,
        Progress.step_header (first.old ++ old) written passed hold (by rw [hnew, hcount]),
        Option.bind_eq_bind, Option.bind_some, List.foldlM_append, hbody, Option.bind_eq_bind,
        Option.bind_some, hrun]
    · rw [hlines]
      simp

end Patching

section Unified

variable {old new : List Text} {name : Text}

/-- The two lines that name the files. -/
def titles (name : Text) : List Text :=
  ["--- original/".toList ++ name ++ ['\n'], "+++ fixed/".toList ++ name ++ ['\n']]

/-- The lines of a diff before missing line feeds are noted. -/
def diffLines (hs : List Hunk) (name : Text) : List Text :=
  titles name ++ hs.flatMap fun h => h.header :: h.body

theorem finished_of_endsLine {line : Text} (h : EndsLine line) : finished line = line := by
  rw [finished, if_pos (beq_iff_eq.mpr h)]

theorem unified_of_hunks {hs : List Hunk} (h : hunks (align old new) = hs) (hne : hs ≠ []) :
    unified old new name = (diffLines hs name).flatMap finished := by
  have htitles : (titles name).flatMap finished =
      ("--- original/".toList ++ name ++ ['\n']) ++ ("+++ fixed/".toList ++ name ++ ['\n']) := by
    rw [titles, List.flatMap_cons, List.flatMap_singleton, finished_of_endsLine (endsLine_append _),
      finished_of_endsLine (endsLine_append _)]
  have hheader (h : Hunk) : finished h.header = h.header := by
    unfold Hunk.header
    exact finished_of_endsLine (by rw [EndsLine, List.getLast?_append_of_ne_nil _ (by decide)]; rfl)
  rw [unified, h, diffLines, List.flatMap_append, htitles, List.flatMap_assoc]
  split
  · contradiction
  · simp only [List.flatMap_cons, hheader]

theorem isDiffLine_cons {mark : Char} {line : Text} (hmark : mark ≠ '\n' ∧ mark ≠ '\\')
    (h : IsLine line) : IsDiffLine (mark :: line) := by
  refine ⟨⟨by simp, ?_⟩, by simpa using hmark.2⟩
  rw [List.dropLast_cons_of_ne_nil h.ne_nil, List.mem_cons, not_or]
  exact ⟨hmark.1.symm, h.newline_last⟩

/-- The lines of a hunk are lines of the two files behind a mark. -/
theorem exists_of_mem_body {h : Hunk} {line : Text} (hmem : line ∈ h.body) :
    ∃ mark l, (mark ≠ '\n' ∧ mark ≠ '\\') ∧ (l ∈ h.old ∨ l ∈ h.new) ∧ line = mark :: l := by
  obtain ⟨chunk, hchunk, hmem⟩ := List.mem_flatMap.mp hmem
  cases chunk with
  | keep items =>
    obtain ⟨l, hl, rfl⟩ := List.mem_map.mp hmem
    exact ⟨' ', l, by decide, Or.inl (List.mem_flatMap.mpr ⟨_, hchunk, hl⟩), rfl⟩
  | change removed added =>
    rcases List.mem_append.mp hmem with hmem | hmem
    · obtain ⟨l, hl, rfl⟩ := List.mem_map.mp hmem
      exact ⟨'-', l, by decide, Or.inl (List.mem_flatMap.mpr ⟨_, hchunk, hl⟩), rfl⟩
    · obtain ⟨l, hl, rfl⟩ := List.mem_map.mp hmem
      exact ⟨'+', l, by decide, Or.inr (List.mem_flatMap.mpr ⟨_, hchunk, hl⟩), rfl⟩

theorem isDiffLine_diffLines {hs : List Hunk} {passed written : Nat}
    (h : Covers passed written hs old new) (hold : Lined old) (hnew : Lined new)
    (hname : '\n' ∉ name) : ∀ l ∈ diffLines hs name, IsDiffLine l := by
  intro l hl
  rcases List.mem_append.mp hl with hl | hl
  · simp only [titles, List.mem_cons, List.not_mem_nil, or_false] at hl
    rcases hl with rfl | rfl
    all_goals
      refine ⟨isLine_append ?_, by simp⟩
      simp [hname]
  · obtain ⟨hunk, hhunk, hl⟩ := List.mem_flatMap.mp hl
    rcases List.mem_cons.mp hl with rfl | hl
    · exact isDiffLine_header hunk
    · obtain ⟨mark, line, hmark, hfrom, rfl⟩ := exists_of_mem_body hl
      apply isDiffLine_cons hmark
      obtain ⟨hsub, hsub'⟩ := h.mem hunk hhunk
      rcases hfrom with hfrom | hfrom
      · exact hold.line line (hsub line hfrom)
      · exact hnew.line line (hsub' line hfrom)

/-- The hunks of two lists of lines cover the changes between them. -/
theorem covers_align (old new : List Text) : Covers 0 0 (hunks (align old new)) old new := by
  have hcovers := covers_hunks (align old new)
  rwa [(flatMap_align old new).1, (flatMap_align old new).2] at hcovers

/-- There are hunks if and only if something has changed. -/
theorem hunks_align_eq_nil_iff : hunks (align old new) = [] ↔ old = new := by
  constructor
  · intro hnil
    have hcovers := covers_align old new
    rw [hnil] at hcovers
    cases hcovers
    rfl
  · rintro rfl
    rw [align_self]
    split
    · rfl
    · simp [hunks, trimLast, cut, Chunk.isChange]

theorem unified_eq_nil_iff : unified old new name = [] ↔ old = new := by
  rw [← hunks_align_eq_nil_iff]
  constructor
  · intro hempty
    by_contra hne
    rw [unified_of_hunks rfl hne, diffLines, titles, List.flatMap_append, List.flatMap_cons,
      finished_of_endsLine (endsLine_append _)] at hempty
    simp at hempty
  · intro hnil
    rw [unified, hnil]

/-- The diff of two lists of lines, applied to the first, gives the second. -/
theorem patch?_unified (hold : Lined old) (hnew : Lined new) (hname : '\n' ∉ name) :
    patch? (unified old new name) old = some new := by
  by_cases hsame : old = new
  · rw [unified_eq_nil_iff.mpr hsame, hsame]
    rfl
  · have hne : hunks (align old new) ≠ [] := fun hnil => hsame (hunks_align_eq_nil_iff.mp hnil)
    have hcovers := covers_align old new
    obtain ⟨p, hrun, hdue, hdue', hlines⟩ := hcovers.run List.length_nil
    have hfirst (rest : Text) :
        startsWith "--- ".toList ("--- original/".toList ++ rest) = true := rfl
    have hsecond (rest : Text) :
        startsWith "+++ ".toList ("+++ fixed/".toList ++ rest) = true := rfl
    rw [unified_of_hunks rfl hne, patch?,
      withoutNotes_lines (isDiffLine_diffLines hcovers hold hnew hname), diffLines, titles]
    simp only [List.cons_append, List.nil_append, List.append_assoc, hfirst, hsecond, and_self,
      if_true, hrun, Option.bind_eq_bind, Option.bind_some, hdue, hdue']
    rw [hlines, List.nil_append]

end Unified

section Files

open Pruner.Command

variable {tools : Tools} {settings : Settings} {session : Session} {path : Text} {content : Bytes}
  {encoding source fixed : Text}

/-- Two texts with the same lines are the same. -/
theorem lines_inj {t u : Text} : lines t = lines u ↔ t = u := by
  constructor
  · intro h
    rw [← lines_flatten t, h, lines_flatten]
  · rintro rfl
    rfl

/-- What is printed of a file is a patch that leads to what would be written. -/
theorem exists_printed (hread : session.tree.read path = .ok content)
    (hdraft : draft tools settings.options content = .ok ⟨encoding, source, fixed⟩)
    (hpath : '\n' ∉ path) :
    ∃ printed : List Text,
      fixFile tools { settings with inPlace := false } session path =
        .ok { session with output := session.output ++ printed } ∧
      (printed.flatten = [] ↔ fixed = source) ∧
      patch? printed.flatten (lines source) = some (lines fixed) := by
  have hfix := fixFile_of_draft { settings with inPlace := false } hread hdraft
  by_cases hsame : fixed = source
  · refine ⟨[], ?_, ?_, ?_⟩
    · rw [hfix, if_pos hsame, List.append_nil]
    · exact iff_of_true rfl hsame
    · rw [hsame]
      rfl
  · refine ⟨[unified (lines source) (lines fixed) path], ?_, ?_, ?_⟩
    · rw [hfix, if_neg hsame]
      rfl
    · rw [List.flatten_singleton, unified_eq_nil_iff, lines_inj, eq_comm]
    · rw [List.flatten_singleton]
      exact patch?_unified (lined_lines _) (lined_lines _) hpath

/-- A diff is empty if and only if nothing has changed, and otherwise it is a patch that leads from
the old lines to the new ones. So what is printed of a file, applied to its text, gives the text that
is stored in its place, for any codecs and any number of rounds. What keeps a file from being read or
fixed is the same for both, and neither prints nor stores anything. -/
theorem printed_diff_agrees_with_edit :
    (∀ (old new : List Text) (name : Text), Lined old → Lined new → '\n' ∉ name →
      (unified old new name = [] ↔ old = new) ∧
      (old ≠ new → patch? (unified old new name) old = some new)) ∧
    ∀ (tools : Tools) (settings : Settings) (session : Session) (path : Text) (content : Bytes),
      session.tree.read path = .ok content → '\n' ∉ path →
      (∀ trouble inPlace, draft tools settings.options content = .error trouble →
        fixFile tools { settings with inPlace } session path = .error (session, trouble)) ∧
      ∀ encoding source fixed,
        draft tools settings.options content = .ok ⟨encoding, source, fixed⟩ →
        ∃ printed : List Text,
          fixFile tools { settings with inPlace := false } session path =
            .ok { session with output := session.output ++ printed } ∧
          (printed.flatten = [] ↔ fixed = source) ∧
          patch? printed.flatten (lines source) = some (lines fixed) ∧
          fixFile tools { settings with inPlace := true } session path =
            (if fixed = source then .ok session
              else store tools.codecs session path encoding fixed) ∧
          ∀ place bytes, session.tree.openForWriting path = .ok place →
            tools.codecs.store encoding fixed = .ok bytes →
            session.tree.device.shortfall? place bytes = none →
            fixFile tools { settings with inPlace := true } session path =
              .ok { session with tree :=
                if fixed = source then session.tree else session.tree.withFile place bytes } := by
  refine ⟨?_, ?_⟩
  · intro old new name hold hnew hname
    exact ⟨unified_eq_nil_iff, fun _ => patch?_unified hold hnew hname⟩
  · intro tools settings session path content hread hpath
    refine ⟨fun trouble inPlace => fixFile_of_trouble { settings with inPlace } hread, ?_⟩
    intro encoding source fixed hdraft
    obtain ⟨printed, hprinted, hempty, hpatch⟩ := exists_printed hread hdraft hpath
    have hfix : fixFile tools { settings with inPlace := true } session path =
        if fixed = source then .ok session else store tools.codecs session path encoding fixed :=
      fixFile_of_draft { settings with inPlace := true } hread hdraft
    refine ⟨printed, hprinted, hempty, hpatch, hfix, ?_⟩
    intro place bytes hplace hbytes hshort
    rw [hfix]
    by_cases hsame : fixed = source
    · rw [if_pos hsame, if_pos hsame]
    · rw [if_neg hsame, if_neg hsame]
      exact store_eq_ok.mpr ⟨place, bytes, hplace, hbytes, hshort, rfl⟩

/-- A source with an unused import, and a last line that lacks its line feed. -/
def shownSource : Text :=
  ["a = 1\n", "b = 2\n", "c = 3\n", "d = 4\n", "import os\n", "x = 5"].flatMap String.toList

def shownFixed : Text :=
  ["a = 1\n", "b = 2\n", "c = 3\n", "d = 4\n", "x = 5"].flatMap String.toList

def shownSession : Session where
  tree := { root := .directory [("p".toList, .file (Utf8.encode shownSource))] }

def shownSettings : Settings := { removeAllUnusedImports := true }

def shownTools : Tools where
  codecs := Codecs.builtin
  check t := if t = shownSource then [⟨5, .unusedImport "os".toList⟩] else []
  rounds := 2

theorem printed_diff_agrees_with_edit_shown :
    unified (lines shownSource) (lines shownFixed) "p".toList =
      ["--- original/p\n", "+++ fixed/p\n", "@@ -2,5 +2,4 @@\n", " b = 2\n", " c = 3\n", " d = 4\n",
        "-import os\n", " x = 5\n", "\\ No newline at end of file\n"].flatMap String.toList ∧
    patch? (unified (lines shownSource) (lines shownFixed) "p".toList) (lines shownSource) =
      some (lines shownFixed) ∧
    ∃ printed : List Text,
      fixFile shownTools { shownSettings with inPlace := false } shownSession "p".toList =
        .ok { shownSession with output := printed } ∧
      patch? printed.flatten (lines shownSource) = some (lines shownFixed) ∧
      fixFile shownTools { shownSettings with inPlace := true } shownSession "p".toList =
        .ok { shownSession with
          tree := shownSession.tree.withFile ["p".toList] (Utf8.encode shownFixed) } := by
  have hread : shownSession.tree.read "p".toList = .ok (Utf8.encode shownSource) := by rfl
  have hdraft : draft shownTools shownSettings.options (Utf8.encode shownSource) =
      .ok ⟨"utf-8".toList, shownSource, shownFixed⟩ := by decide +kernel
  have hstore : shownTools.codecs.store "utf-8".toList shownFixed =
      .ok (Utf8.encode shownFixed) := by decide +kernel
  have hchanged : shownFixed ≠ shownSource := by decide
  obtain ⟨-, hfixed⟩ := printed_diff_agrees_with_edit.2 shownTools shownSettings shownSession
    "p".toList _ hread (by decide)
  obtain ⟨printed, hprinted, -, hpatch, -, hwritten⟩ := hfixed _ _ _ hdraft
  have hdiff := (printed_diff_agrees_with_edit.1 (lines shownSource) (lines shownFixed) "p".toList
    (lined_lines _) (lined_lines _) (by decide)).2 (fun h => hchanged (lines_inj.mp h).symm)
  have hedit := hwritten ["p".toList] _ rfl hstore rfl
  rw [if_neg hchanged] at hedit
  exact ⟨by decide +kernel, hdiff, printed, hprinted, hpatch, hedit⟩

end Files

end Pruner.Diff
