import Pruner.Proofs.Command.Run
import Pruner.Proofs.Encoding.Charset
import Pruner.Proofs.Fix.TopLines

/-!
Files that are written in place and read again.

A file is written in the encoding that it was read in, and in that encoding it reads as the text that
was written. It is read in that encoding again exactly if its new first two lines ask for it. Lines
near the top can go, and a comment that names another encoding, or named this one, can come to
another line. Comments in the lines that decide about the encoding protect against that.
-/
namespace Pruner.Command

open Pruner.Text

variable {tools : Tools} {settings : Settings} {session next : Session} {path : Text}
  {content : Bytes}

/-- What stands in a file after it was fixed in place: the fixed text in the encoding of the file, or
the old bytes if nothing has changed. -/
theorem read_of_fixFile_in_place (hread : session.tree.read path = .ok content)
    (hplace : settings.inPlace = true) (h : fixFile tools settings session path = .ok next) :
    ∃ encoding source fixed written, readSource tools.codecs content = .ok (encoding, source) ∧
      (Fix.fixCode settings.options (fun _ => tools.check) tools.rounds source).outcome =
        .done fixed ∧
      next.tree.read path = .ok written ∧
      (fixed = source ∧ written = content ∨ tools.codecs.store encoding fixed = .ok written) := by
  cases hdraft : draft tools settings.options content with
  | error trouble =>
    rw [fixFile_of_trouble settings hread hdraft] at h
    cases h
  | ok d =>
    obtain ⟨encoding, source, fixed⟩ := d
    obtain ⟨hsource, hdone⟩ := draft_eq_ok.mp hdraft
    rw [fixFile_of_draft settings hread hdraft, hplace] at h
    split at h
    · rename_i hsame
      obtain rfl := Except.ok.inj h
      exact ⟨encoding, source, fixed, content, hsource, hdone, hread, Or.inl ⟨hsame, rfl⟩⟩
    · obtain ⟨place, written, hopen, hwritten, -, rfl⟩ := store_eq_ok.mp h
      obtain ⟨hlocate, old, hfile⟩ := FileTree.exists_file_of_openForWriting hopen
      refine ⟨encoding, source, fixed, written, hsource, hdone, ?_, Or.inr hwritten⟩
      rw [FileTree.read_withFile_self hfile written hlocate, hread]
      rfl

theorem readSource_eq_ok {codecs : Codecs} {encoding source : Text} :
    readSource codecs content = .ok (encoding, source) ↔
      Encoding.detect codecs none content = .ok encoding ∧
        codecs.read encoding none content = .ok source := by
  rw [readSource, Fix.bind_eq_ok]
  constructor
  · rintro ⟨name, hname, h⟩
    obtain ⟨t, ht, h⟩ := Fix.bind_eq_ok.mp h
    obtain ⟨rfl, rfl⟩ := Prod.mk.inj (Except.ok.inj h)
    exact ⟨hname, ht⟩
  · rintro ⟨hname, ht⟩
    exact ⟨encoding, hname, Fix.bind_eq_ok.mpr ⟨source, ht, rfl⟩⟩

/-- A file that is fixed in place reads, in the encoding that it was read in, as the fixed text, if
the codecs read back what they store. It is found to be in that encoding exactly if it asks for it
again, or if the encoding is the fallback and the file cannot be read in what it asks for, for a
reason that is foreseen; it then reads as the fixed text without further ado. For a reason that is
not foreseen no encoding is found at all. The file asks for what it asked for before if its codec
keeps lines and the lines that decide have stayed. And they stay if they all have a `#`. A file that
cannot be read in the first place is left as it is. -/
theorem fixFile_in_place_reads_back (hback : tools.codecs.ReadsBack)
    (hread : session.tree.read path = .ok content) (hplace : settings.inPlace = true) :
    (∀ e, readSource tools.codecs content = .error e →
      fixFile tools settings session path = .error (session, .codec e)) ∧
    ∀ next, fixFile tools settings session path = .ok next →
      ∃ encoding source fixed written, readSource tools.codecs content = .ok (encoding, source) ∧
        (Fix.fixCode settings.options (fun _ => tools.check) tools.rounds source).outcome =
          .done fixed ∧
        next.tree.read path = .ok written ∧
        tools.codecs.read encoding none written = .ok fixed ∧
        (Encoding.detect tools.codecs none written = .ok encoding ↔
          (Encoding.asked? tools.codecs written).getD Encoding.fallback = encoding ∨
            encoding = Encoding.fallback ∧ ∃ e,
              tools.codecs.read ((Encoding.asked? tools.codecs written).getD Encoding.fallback) none
                written = .error e ∧ e.isForeseen = true) ∧
        (∀ e, Encoding.detect tools.codecs none written = .error e ↔
          tools.codecs.read ((Encoding.asked? tools.codecs written).getD Encoding.fallback) none
            written = .error e ∧ e.isForeseen = false) ∧
        (Encoding.detect tools.codecs none written = .ok encoding →
          readSource tools.codecs written = .ok (encoding, fixed)) ∧
        ((∀ codec, tools.codecs.find? encoding = some codec → codec.KeepsLines) →
          tools.codecs.store encoding source = .ok content →
          (lines fixed).take (Encoding.deciding content) =
            (lines source).take (Encoding.deciding content) →
          Encoding.asked? tools.codecs written = Encoding.asked? tools.codecs content) ∧
        ((∀ l ∈ (lines source).take (Encoding.deciding content), '#' ∈ l) →
          (lines fixed).take (Encoding.deciding content) =
            (lines source).take (Encoding.deciding content)) := by
  refine ⟨fun e he => ?_, fun next h => ?_⟩
  · apply fixFile_of_trouble settings hread
    rw [draft, he]
  · obtain ⟨encoding, source, fixed, written, hsource, hdone, hwritten, hstored⟩ :=
      read_of_fixFile_in_place hread hplace h
    have hfixed : tools.codecs.read encoding none written = .ok fixed := by
      rcases hstored with ⟨rfl, rfl⟩ | hstored
      · exact (readSource_eq_ok.mp hsource).2
      · exact hback encoding fixed written hstored
    refine ⟨encoding, source, fixed, written, hsource, hdone, hwritten, hfixed,
      Encoding.detect_eq_ok_iff hfixed, fun e => Encoding.detect_eq_error_iff,
      fun hdetect => readSource_eq_ok.mpr ⟨hdetect, hfixed⟩, ?_,
      fun hhash => Fix.take_lines_fixCode hhash hdone⟩
    intro hkeeps hcontent htake
    rcases hstored with ⟨-, rfl⟩ | hstored
    · rfl
    · apply Encoding.asked?_of_firstLines
      unfold Codecs.store at hcontent hstored
      cases hcodec : tools.codecs.find? encoding with
      | none => simp [hcodec] at hcontent
      | some codec =>
        rw [hcodec] at hcontent hstored
        exact hkeeps codec hcodec _ _ _ _ _ hcontent hstored htake

/-- A source that begins with an unused import, and what is left once it is removed. -/
def coveredSource (fixed : Text) : Text :=
  "import os\n".toList ++ fixed

def coveredSession (fixed : Text) : Session where
  tree := { root := .directory [("a".toList, .file (Utf8.encode (coveredSource fixed)))] }

def coveredSettings : Settings := { inPlace := true, removeAllUnusedImports := true }

def coveredTools : Tools where
  codecs := Codecs.builtin
  check _ := [⟨1, .unusedImport "os".toList⟩]
  rounds := 2

theorem read_coveredSession (fixed : Text) : (coveredSession fixed).tree.read "a".toList =
    .ok (Utf8.encode (coveredSource fixed)) := rfl

/-- What is left is stored in UTF-8, if the source was read so. -/
theorem exists_written_covered {fixed : Text}
    (hdraft : draft coveredTools coveredSettings.options (Utf8.encode (coveredSource fixed)) =
      .ok ⟨"utf-8".toList, coveredSource fixed, fixed⟩)
    (hchanged : fixed ≠ coveredSource fixed)
    (hstore : coveredTools.codecs.store "utf-8".toList fixed = .ok (Utf8.encode fixed)) :
    ∃ next, fixFile coveredTools coveredSettings (coveredSession fixed) "a".toList = .ok next ∧
      next.tree.read "a".toList = .ok (Utf8.encode fixed) := by
  have hfix := fixFile_of_draft coveredSettings (read_coveredSession fixed) hdraft
  rw [if_neg hchanged, if_pos (by rfl)] at hfix
  refine ⟨_, hfix.trans (store_eq_ok.mpr ⟨["a".toList], _, rfl, hstore, rfl, rfl⟩), rfl⟩

/-- An unused import above a comment that names another codec: once it is gone, the comment stands on
the first line, and the file is read in that codec, or in none. -/
theorem uncovered_comment_changes_encoding :
    let inLatin : Text := "# coding: latin-1\n'é'\n".toList
    let inWide : Text := "# coding: utf-16\nx = 10\n".toList
    (∃ next written,
      fixFile coveredTools coveredSettings (coveredSession inLatin) "a".toList = .ok next ∧
      next.tree.read "a".toList = .ok written ∧
      Codecs.builtin.read "utf-8".toList none written = .ok inLatin ∧
      Encoding.detect Codecs.builtin none written ≠ .ok "utf-8".toList) ∧
    ∃ next written e,
      fixFile coveredTools coveredSettings (coveredSession inWide) "a".toList = .ok next ∧
      next.tree.read "a".toList = .ok written ∧
      Codecs.builtin.read "utf-8".toList none written = .ok inWide ∧
      Encoding.detect Codecs.builtin none written = .error e := by
  intro inLatin inWide
  have hcovered {fixed : Text} (hdraft : draft coveredTools coveredSettings.options
      (Utf8.encode (coveredSource fixed)) = .ok ⟨"utf-8".toList, coveredSource fixed, fixed⟩)
      {next : Session}
      (hfix : fixFile coveredTools coveredSettings (coveredSession fixed) "a".toList = .ok next)
      (hnext : next.tree.read "a".toList = .ok (Utf8.encode fixed)) :
      Codecs.builtin.read "utf-8".toList none (Utf8.encode fixed) = .ok fixed ∧
      (Encoding.detect Codecs.builtin none (Utf8.encode fixed) = .ok "utf-8".toList →
        (Encoding.asked? Codecs.builtin (Utf8.encode fixed)).getD Encoding.fallback =
          "utf-8".toList) ∧
      ∀ e, Encoding.detect Codecs.builtin none (Utf8.encode fixed) = .error e ↔
        Codecs.builtin.read ((Encoding.asked? Codecs.builtin (Utf8.encode fixed)).getD
          Encoding.fallback) none (Utf8.encode fixed) = .error e ∧ e.isForeseen = false := by
    obtain ⟨encoding, source, result, written, hsource, hdone, hwritten, hread, hiff, herror, -⟩ :=
      (fixFile_in_place_reads_back Codecs.builtin_readsBack (read_coveredSession fixed) rfl).2 next
        hfix
    obtain ⟨hsource', hdone'⟩ := draft_eq_ok.mp hdraft
    obtain ⟨rfl, rfl⟩ := Prod.mk.inj (Except.ok.inj (hsource'.symm.trans hsource))
    obtain rfl := Fix.Outcome.done.inj (hdone'.symm.trans hdone)
    obtain rfl := Except.ok.inj (hnext.symm.trans hwritten)
    refine ⟨hread, fun hdetect => (hiff.mp hdetect).resolve_right ?_, herror⟩
    exact fun h => absurd h.1 (by decide)
  constructor
  · have hdraft : draft coveredTools coveredSettings.options (Utf8.encode (coveredSource inLatin)) =
        .ok ⟨"utf-8".toList, coveredSource inLatin, inLatin⟩ := by decide +kernel
    obtain ⟨next, hfix, hnext⟩ :=
      exists_written_covered hdraft (by decide +kernel) (by decide +kernel)
    obtain ⟨hread, hasked, -⟩ := hcovered hdraft hfix hnext
    exact ⟨next, _, hfix, hnext, hread, fun hdetect => absurd (hasked hdetect) (by decide +kernel)⟩
  · have hdraft : draft coveredTools coveredSettings.options (Utf8.encode (coveredSource inWide)) =
        .ok ⟨"utf-8".toList, coveredSource inWide, inWide⟩ := by decide +kernel
    obtain ⟨next, hfix, hnext⟩ :=
      exists_written_covered hdraft (by decide +kernel) (by decide +kernel)
    obtain ⟨hread, -, herror⟩ := hcovered hdraft hfix hnext
    exact ⟨next, _, .rejected "UTF-16 stream does not start with BOM".toList, hfix, hnext, hread,
      (herror _).mpr (by decide +kernel)⟩

end Pruner.Command
