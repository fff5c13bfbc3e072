import Pruner.Encoding.Charset
import Pruner.Proofs.Command.Run
import Pruner.Proofs.Files.Find
import Mathlib.Data.List.Nodup
import Mathlib.Data.List.Pairwise

/-!
The order in which files are fixed does not matter, as long as the names of a command line lead to
different places and none of them leads into a directory that another one names.

What fixing a file does depends on what can be read and written at its path alone, and it changes
nothing else than that file. So a directory is found as it was at the start, whichever files were
fixed before, and two files can be fixed in any order.
-/
namespace Pruner.Command

open Pruner.Text Pruner.Files Pruner.Fix

variable {tools : Tools} {settings : Settings} {session next : Session} {tree : FileTree}
  {path : Text}

/-- Two paths do not lead to the same place. -/
def Separate (tree : FileTree) (a b : Text) : Prop :=
  ∀ place, tree.locate a = .ok place → tree.locate b ≠ .ok place

theorem Separate.symm {tree : FileTree} {a b : Text} (h : Separate tree a b) :
    Separate tree b a :=
  fun place hb ha => h place ha hb

/-- Two paths lead to different places, and neither leads below the other. -/
def Apart (tree : FileTree) (a b : Text) : Prop :=
  ∀ place inner, tree.locate a = .ok place → tree.locate b = .ok inner →
    ¬place <+: inner ∧ ¬inner <+: place

/-- What a visit can do to a tree: nothing, or another content of the file that is visited. -/
theorem tree_of_visitFile (h : visitFile tools settings session path = .ok next) :
    next.tree = session.tree ∨ ∃ place old content, session.tree.locate path = .ok place ∧
      session.tree.root.at? place = some (.file old) ∧
      next.tree = session.tree.withFile place content := by
  obtain ⟨effect, heffect, -, rfl⟩ := exists_effect_of_visitFile h
  cases hstored : effect.stored with
  | none => exact Or.inl (Effect.change_of_none hstored session.tree)
  | some stored =>
    obtain ⟨hplace, old, hfile⟩ :=
      FileTree.exists_file_of_openForWriting (heffect.opened _ _ hstored)
    exact Or.inr ⟨stored.1, old, stored.2, hplace, hfile, Effect.change_of_some hstored session.tree⟩

section Step

variable (h : visitFile tools settings session path = .ok next)
include h

theorem locate_of_visitFile (other : Text) :
    next.tree.locate other = session.tree.locate other := by
  rcases tree_of_visitFile h with htree | ⟨place, old, content, -, hfile, htree⟩
  · rw [htree]
  · rw [htree, FileTree.locate_withFile hfile]

theorem separate_of_visitFile {a b : Text} (hab : Separate session.tree a b) :
    Separate next.tree a b := by
  intro place ha hb
  rw [locate_of_visitFile h] at ha hb
  exact hab place ha hb

theorem apart_of_visitFile {a b : Text} (hab : Apart session.tree a b) : Apart next.tree a b := by
  intro place inner ha hb
  rw [locate_of_visitFile h] at ha hb
  exact hab place inner ha hb

theorem lawful_of_visitFile (hlawful : session.tree.root.Lawful) : next.tree.root.Lawful := by
  rcases tree_of_visitFile h with htree | ⟨place, old, content, -, hfile, htree⟩
  · rwa [htree]
  · rw [htree]
    exact hlawful.put hfile content

theorem agreeAt_of_visitFile {other : Text} (hother : Separate session.tree path other) :
    AgreeAt other next.tree session.tree := by
  rcases tree_of_visitFile h with htree | ⟨place, old, content, hplace, hfile, htree⟩
  · rw [htree]
    exact .refl other session.tree
  · rw [htree]
    exact ⟨FileTree.read_withFile_of_ne hfile content (hother place hplace),
      FileTree.openForWriting_withFile hfile content other, FileTree.device_withFile ..⟩

theorem isWalked_of_visitFile (recursive : Bool) (name : Text) :
    isWalked next.tree recursive name = isWalked session.tree recursive name := by
  rcases tree_of_visitFile h with htree | ⟨place, old, content, -, hfile, htree⟩
  · rw [htree]
  · rw [htree, isWalked_withFile hfile]

theorem filesOf_of_visitFile (hlawful : session.tree.root.Lawful) (codecs : Codecs)
    (exclude : List Text) {recursive : Bool} {name : Text}
    (hname : isWalked session.tree recursive name = true) (hapart : Apart session.tree path name) :
    filesOf codecs next.tree exclude name = filesOf codecs session.tree exclude name := by
  rcases tree_of_visitFile h with htree | ⟨place, old, content, hplace, hfile, htree⟩
  · rw [htree]
  · rw [htree]
    apply filesOf_withFile hlawful hfile content exclude hname
    intro inner hinner
    exact (hapart place inner hplace hinner).2

end Step

theorem mapError_eq_ok {ε ε' α : Type} {x : Except ε α} {f : ε → ε'} {a : α} :
    x.mapError f = .ok a ↔ x = .ok a := by
  cases x <;> simp [Except.mapError]

/-- Names that still stand for what they stood for in a tree, and whose files can be visited without
a change to that. -/
structure FoundAsIn (codecs : Codecs) (tree : FileTree) (recursive : Bool) (exclude : List Text)
    (session : Session) (names : List Text) : Prop where
  lawful : session.tree.root.Lawful
  apart : names.Pairwise (Apart session.tree)
  walked : ∀ name ∈ names, isWalked session.tree recursive name = isWalked tree recursive name
  files : ∀ name ∈ names, isWalked tree recursive name = true →
    filesOf codecs session.tree exclude name = filesOf codecs tree exclude name

section FoundAsIn

variable {codecs : Codecs} {recursive : Bool} {exclude names : List Text}

theorem FoundAsIn.skip (h : FoundAsIn codecs tree recursive exclude session (path :: names)) :
    FoundAsIn codecs tree recursive exclude session names where
  lawful := h.lawful
  apart := h.apart.of_cons
  walked name hname := h.walked name (List.mem_cons_of_mem path hname)
  files name hname := h.files name (List.mem_cons_of_mem path hname)

theorem FoundAsIn.visit (h : FoundAsIn codecs tree recursive exclude session (path :: names))
    (hvisit : visitFile tools settings session path = .ok next) :
    FoundAsIn codecs tree recursive exclude next names where
  lawful := lawful_of_visitFile hvisit h.lawful
  apart := h.skip.apart.imp (apart_of_visitFile hvisit)
  walked name hname := (isWalked_of_visitFile hvisit recursive name).trans (h.skip.walked name hname)
  files name hname hwalked := by
    -- The file that was visited is not below this name.
    have hapart := List.rel_of_pairwise_cons h.apart hname
    have hbefore := (h.skip.walked name hname).trans hwalked
    rw [filesOf_of_visitFile hvisit h.lawful codecs exclude hbefore hapart,
      h.skip.files name hname hwalked]

/-- Directories are found as they were at the start, also if they are looked through after files
have been visited. -/
theorem visitNames_visitFile_eq_ok (hlawful : tree.root.Lawful) (hapart : names.Pairwise (Apart tree))
    {last : Session} :
    visitNames (fun session => isWalked session.tree recursive)
        (fun session name => (filesOf codecs session.tree exclude name).mapError
          fun e => (session, Trouble.codec e))
        (visitFile tools settings) [] { tree } names = .ok last ↔
      Searchable codecs tree recursive exclude names ∧
        (visited codecs tree recursive exclude [] names).foldlM (visitFile tools settings) { tree } =
          .ok last := by
  apply visitNames_eq_ok (P := FoundAsIn codecs tree recursive exclude)
  · intro session name names h
    exact h.walked name List.mem_cons_self
  · intro session name names h hname files
    rw [mapError_eq_ok, h.files name List.mem_cons_self hname]
  · intro session name names h
    exact h.skip
  · intro session name names next h hvisit
    exact h.visit hvisit
  · exact ⟨hlawful, hapart, fun _ _ => rfl, fun _ _ _ => rfl⟩

end FoundAsIn

/-- Two sessions with the same files that have written the same, in some order. -/
structure Alike (a b : Session) : Prop where
  tree : a.tree = b.tree
  output : a.output.Perm b.output
  errors : a.errors.Perm b.errors
  failed : a.failed = b.failed

theorem Alike.refl (a : Session) : Alike a a := ⟨rfl, .refl _, .refl _, rfl⟩

theorem Alike.trans {a b c : Session} (hab : Alike a b) (hbc : Alike b c) : Alike a c where
  tree := hab.tree.trans hbc.tree
  output := hab.output.trans hbc.output
  errors := hab.errors.trans hbc.errors
  failed := hab.failed.trans hbc.failed

theorem Alike.apply {a b : Session} (h : Alike a b) (effect : Effect) :
    Alike (effect.apply a) (effect.apply b) where
  tree := congrArg effect.change h.tree
  output := h.output.append_right _
  errors := h.errors.append_right _
  failed := congrArg (· || !effect.errors.isEmpty) h.failed

theorem foldlM_cons_eq_ok {rest : List Text} {last : Session} :
    (path :: rest).foldlM (visitFile tools settings) session = .ok last ↔
      ∃ next, visitFile tools settings session path = .ok next ∧
        rest.foldlM (visitFile tools settings) next = .ok last := by
  rw [List.foldlM_cons, bind_eq_ok]

/-- The effects on two files in different places can come in any order. -/
theorem alike_apply_apply {a b : Text} {first second : Effect}
    (hseparate : Separate session.tree a b)
    (hfirst : HasEffect tools settings session.tree a first)
    (hsecond : HasEffect tools settings session.tree b second) :
    Alike (second.apply (first.apply session)) (first.apply (second.apply session)) where
  tree := by
    change second.change (first.change session.tree) = first.change (second.change session.tree)
    cases hstored : first.stored with
    | none => rw [Effect.change_of_none hstored, Effect.change_of_none hstored]
    | some stored =>
      cases hstored' : second.stored with
      | none => rw [Effect.change_of_none hstored', Effect.change_of_none hstored']
      | some stored' =>
        obtain ⟨hplace, old, hfile⟩ :=
          FileTree.exists_file_of_openForWriting (hfirst.opened _ _ hstored)
        obtain ⟨hplace', old', hfile'⟩ :=
          FileTree.exists_file_of_openForWriting (hsecond.opened _ _ hstored')
        have hne : stored.1 ≠ stored'.1 := fun heq => hseparate _ hplace (heq ▸ hplace')
        rw [Effect.change_of_some hstored, Effect.change_of_some hstored',
          Effect.change_of_some hstored, Effect.change_of_some hstored',
          FileTree.withFile_comm hfile hfile' hne]
  output := by
    simp only [Effect.apply, List.append_assoc]
    exact List.perm_append_comm.append_left _
  errors := by
    simp only [Effect.apply, List.append_assoc]
    exact List.perm_append_comm.append_left _
  failed := by
    simp only [Effect.apply, Bool.or_assoc]
    rw [Bool.or_comm (!first.errors.isEmpty)]

theorem exists_alike {other last : Session} {files : List Text} (halike : Alike session other)
    (hrun : files.foldlM (visitFile tools settings) session = .ok last) :
    ∃ last', files.foldlM (visitFile tools settings) other = .ok last' ∧ Alike last last' := by
  induction files generalizing session other with
  | nil =>
    obtain rfl : session = last := Except.ok.inj hrun
    exact ⟨other, rfl, halike⟩
  | cons path files ih =>
    obtain ⟨next, hvisit, hrun⟩ := foldlM_cons_eq_ok.mp hrun
    obtain ⟨effect, heffect, hbear, rfl⟩ := exists_effect_of_visitFile hvisit
    obtain ⟨last', hrun', hlast⟩ := ih (halike.apply effect) hrun
    refine ⟨last', foldlM_cons_eq_ok.mpr ⟨_, (heffect.visitFile_eq_ok ?_).mpr ⟨hbear, rfl⟩, hrun'⟩,
      hlast⟩
    rw [halike.tree]
    exact .refl path other.tree

/-- Files in different places can be visited in any order. -/
theorem exists_alike_of_perm {files files' : List Text} (hperm : files.Perm files')
    {last : Session} (hseparate : files.Pairwise (Separate session.tree))
    (hrun : files.foldlM (visitFile tools settings) session = .ok last) :
    ∃ last', files'.foldlM (visitFile tools settings) session = .ok last' ∧ Alike last last' := by
  induction hperm generalizing session last with
  | nil => exact ⟨last, hrun, Alike.refl last⟩
  | cons path _ ih =>
    obtain ⟨-, hrest⟩ := List.pairwise_cons.mp hseparate
    obtain ⟨next, hvisit, hrun⟩ := foldlM_cons_eq_ok.mp hrun
    have hseparate' := hrest.imp (separate_of_visitFile hvisit)
    obtain ⟨last', hrun', hlast⟩ := ih hseparate' hrun
    exact ⟨last', foldlM_cons_eq_ok.mpr ⟨next, hvisit, hrun'⟩, hlast⟩
  | swap a b rest =>
    have hba : Separate session.tree b a := List.rel_of_pairwise_cons hseparate List.mem_cons_self
    obtain ⟨next, hvisit, hrun⟩ := foldlM_cons_eq_ok.mp hrun
    obtain ⟨next', hvisit', hrun⟩ := foldlM_cons_eq_ok.mp hrun
    have hagree := agreeAt_of_visitFile hvisit hba
    obtain ⟨first, hfirst, hbear, rfl⟩ := exists_effect_of_visitFile hvisit
    -- The effect on the file that came second is the same before the first is visited, and the other
    -- way round.
    obtain ⟨second, hsecond⟩ := exists_hasEffect tools settings session.tree a
    obtain ⟨hbear', rfl⟩ := (hsecond.visitFile_eq_ok hagree).mp hvisit'
    have hvisita := (hsecond.visitFile_eq_ok (.refl _ _)).mpr ⟨hbear', rfl⟩
    have hvisitb := (hfirst.visitFile_eq_ok (agreeAt_of_visitFile hvisita hba.symm)).mpr ⟨hbear, rfl⟩
    obtain ⟨last', hrun', hlast⟩ := exists_alike (alike_apply_apply hba hfirst hsecond) hrun
    exact ⟨last', foldlM_cons_eq_ok.mpr ⟨_, hvisita, foldlM_cons_eq_ok.mpr ⟨_, hvisitb, hrun'⟩⟩,
      hlast⟩
  | trans hperm _ ih ih' =>
    obtain ⟨middle, hmiddle, halike⟩ := ih hseparate hrun
    have hseparate' := (hperm.pairwise_iff Separate.symm).mp hseparate
    obtain ⟨last', hrun', hlast⟩ := ih' hseparate' hmiddle
    exact ⟨last', hrun', halike.trans hlast⟩

/-- Visits leave alone what is in another place than all that is visited. -/
theorem agreeAt_of_foldlM {files : List Text} {last : Session} {other : Text}
    (hrun : files.foldlM (visitFile tools settings) session = .ok last)
    (hother : ∀ file ∈ files, Separate session.tree file other) :
    AgreeAt other last.tree session.tree := by
  induction files generalizing session with
  | nil =>
    obtain rfl : session = last := Except.ok.inj hrun
    exact .refl other session.tree
  | cons file files ih =>
    obtain ⟨next, hvisit, hrun⟩ := foldlM_cons_eq_ok.mp hrun
    refine (ih hrun ?_).trans (agreeAt_of_visitFile hvisit (hother file List.mem_cons_self))
    intro path hpath
    exact separate_of_visitFile hvisit (hother path (List.mem_cons_of_mem file hpath))

/-- Each of several files ends up as its own effect leaves it. -/
theorem exists_effect_of_mem {files : List Text} {last : Session}
    (hrun : files.foldlM (visitFile tools settings) session = .ok last)
    (hseparate : files.Pairwise (Separate session.tree)) (hpath : path ∈ files) :
    ∃ effect, HasEffect tools settings session.tree path effect ∧ effect.IsBearable ∧
      last.tree.read path = (effect.change session.tree).read path := by
  induction files generalizing session with
  | nil => simp at hpath
  | cons file files ih =>
    obtain ⟨hfirst, hrest⟩ := List.pairwise_cons.mp hseparate
    obtain ⟨next, hvisit, hrun⟩ := foldlM_cons_eq_ok.mp hrun
    rcases List.mem_cons.mp hpath with rfl | hpath
    · obtain ⟨effect, heffect, hbear, rfl⟩ := exists_effect_of_visitFile hvisit
      refine ⟨effect, heffect, hbear, (agreeAt_of_foldlM hrun ?_).read⟩
      intro other hother
      exact (separate_of_visitFile hvisit (hfirst other hother)).symm
    · have hagree := agreeAt_of_visitFile hvisit (hfirst path hpath)
      obtain ⟨effect, heffect, hbear, hread⟩ :=
        ih hrun (hrest.imp (separate_of_visitFile hvisit)) hpath
      -- The visits before have not changed what the effect is, nor what it is on.
      have heffect' : HasEffect tools settings session.tree path effect :=
        heffect.congr ⟨hagree.read.symm, hagree.openForWriting.symm, hagree.device.symm⟩
      exact ⟨effect, heffect', hbear, by rw [hread, heffect.read_change, heffect'.read_change,
        hagree.read]⟩

/-- Visits have failed exactly if one of the files could not be accessed. -/
theorem failed_iff {files : List Text} {last : Session}
    (hrun : files.foldlM (visitFile tools settings) session = .ok last)
    (hseparate : files.Pairwise (Separate session.tree)) :
    last.failed = true ↔ session.failed = true ∨ ∃ file ∈ files, ∃ after message,
      fixFile tools settings { tree := session.tree } file = .error (after, .access message) := by
  induction files generalizing session with
  | nil =>
    obtain rfl : session = last := Except.ok.inj hrun
    simp
  | cons file files ih =>
    obtain ⟨hfirst, hrest⟩ := List.pairwise_cons.mp hseparate
    obtain ⟨next, hvisit, hrun⟩ := foldlM_cons_eq_ok.mp hrun
    have hothers : (∃ path ∈ files, ∃ after message, fixFile tools settings { tree := next.tree } path =
        .error (after, .access message)) ↔
        ∃ path ∈ files, ∃ after message, fixFile tools settings { tree := session.tree } path =
          .error (after, .access message) := by
      apply exists_congr
      intro path
      apply and_congr_right
      intro hpath
      obtain ⟨effect, heffect⟩ := exists_hasEffect tools settings session.tree path
      have hagree := agreeAt_of_visitFile hvisit (hfirst path hpath)
      rw [← heffect.errors_isEmpty_eq_false_iff, ← (heffect.congr hagree).errors_isEmpty_eq_false_iff]
    rw [ih hrun (hrest.imp (separate_of_visitFile hvisit)), hothers, List.exists_mem_cons_iff,
      ← or_assoc]
    obtain ⟨effect, heffect, -, rfl⟩ := exists_effect_of_visitFile hvisit
    rw [← heffect.errors_isEmpty_eq_false_iff]
    simp [Effect.apply]

theorem Apart.symm {tree : FileTree} {a b : Text} (h : Apart tree a b) : Apart tree b a :=
  fun place inner hb ha => (h inner place ha hb).symm

instance (tree : FileTree) : Std.Symm (Apart tree) := ⟨fun _ _ => Apart.symm⟩

theorem Apart.separate {tree : FileTree} {a b : Text} (h : Apart tree a b) : Separate tree a b :=
  fun place ha hb => (h place place ha hb).1 List.prefix_rfl

section Visited

variable {codecs : Codecs} {recursive : Bool} {exclude names : List Text}

/-- All files that names stand for are in different places. -/
theorem pairwise_visited (hlawful : tree.root.Lawful)
    (hsearch : Searchable codecs tree recursive exclude names)
    (hapart : names.Pairwise (Apart tree)) :
    (visited codecs tree recursive exclude [] names).Pairwise (Separate tree) := by
  unfold visited
  rw [List.nil_append, List.pairwise_append, List.pairwise_flatMap]
  have hbelow {name file : Text} {place : List Text}
      (hname : name ∈ names.filter (isWalked tree recursive))
      (hfile : file ∈ foundBelow codecs tree exclude name) (hplace : tree.locate file = .ok place) :
      ∃ outer, tree.locate name = .ok outer ∧ outer <+: place := by
    obtain ⟨hmem, hwalked⟩ := List.mem_filter.mp hname
    obtain ⟨outer, rest, content, houter, hrest, -⟩ :=
      exists_place_of_mem_filesOf hlawful hwalked (hsearch name hmem hwalked) hfile
    exact ⟨outer, houter, Except.ok.inj (hrest.symm.trans hplace) ▸ List.prefix_append _ _⟩
  refine ⟨(hapart.filter _).imp Apart.separate, ⟨?_, ?_⟩, ?_⟩
  · intro name hname
    obtain ⟨hmem, hwalked⟩ := List.mem_filter.mp hname
    apply (pairwise_filesOf hlawful hwalked (hsearch name hmem hwalked)).imp
    intro a b hne place ha hb
    exact hne (ha.trans hb.symm)
  · -- Places below places of which none is below the other.
    apply (hapart.filter _).imp_of_mem
    intro a b ha hb hab file hfile file' hfile' place hplace hplace'
    obtain ⟨outer, houter, hprefix⟩ := hbelow ha hfile hplace
    obtain ⟨outer', houter', hprefix'⟩ := hbelow hb hfile' hplace'
    obtain ⟨hnot, hnot'⟩ := hab outer outer' houter houter'
    exact (List.prefix_or_prefix_of_prefix hprefix hprefix').elim hnot hnot'
  · intro name hname file hfile place hplace hfile'
    obtain ⟨directory, hdirectory, hmem⟩ := List.mem_flatMap.mp hfile
    obtain ⟨outer, houter, hprefix⟩ := hbelow hdirectory hmem hfile'
    obtain ⟨hnames, hwalked⟩ := List.mem_filter.mp hdirectory
    obtain ⟨hnames', hself⟩ := List.mem_filter.mp hname
    have hne : name ≠ directory := by
      rintro rfl
      simp [hwalked] at hself
    exact ((hapart.forall hnames' hnames hne) place outer hplace houter).2 hprefix

theorem visited_perm {names' : List Text} (h : names.Perm names') :
    (visited codecs tree recursive exclude [] names).Perm
      (visited codecs tree recursive exclude [] names') := by
  unfold visited
  exact (h.filter _).append ((h.filter _).flatMap_right _)

end Visited

/-- Settings that are turned down before any file is looked at. -/
def Settings.isRefused (settings : Settings) : Bool :=
  settings.removeAllUnusedImports && !settings.imports.isEmpty

/-- The paths that the names of a command line stand for, in the tree as it is at the start. -/
def findPaths (codecs : Codecs) (tree : FileTree) (settings : Settings) (names : List Text) :
    Except CodecError (List Text) :=
  find codecs tree settings.recursive (commaSeparated settings.exclude) names.eraseDups

/-- No two names lead to the same place, and none leads below another. -/
def AllApart (tree : FileTree) (names : List Text) : Prop :=
  ∀ a ∈ names, ∀ b ∈ names, a ≠ b → Apart tree a b

section Runs

variable {names names' paths : List Text}

theorem AllApart.pairwise (h : AllApart tree names) : names.eraseDups.Pairwise (Apart tree) := by
  apply (nodup_eraseDups names).pairwise_of_forall_ne
  intro a ha b hb hne
  exact h a (List.mem_eraseDups.mp ha) b (List.mem_eraseDups.mp hb) hne

theorem AllApart.pairwise_of_findPaths {codecs : Codecs} (hlawful : tree.root.Lawful)
    (h : AllApart tree names) (hpaths : findPaths codecs tree settings names = .ok paths) :
    paths.Pairwise (Separate tree) := by
  obtain ⟨hsearch, rfl⟩ := find_eq_ok_iff.mp hpaths
  exact pairwise_visited hlawful hsearch h.pairwise

/-- Another order of the names is another order of the files. -/
theorem perm_of_findPaths {codecs : Codecs} {paths' : List Text}
    (hnames : ∀ name, name ∈ names ↔ name ∈ names')
    (hpaths : findPaths codecs tree settings names = .ok paths)
    (hpaths' : findPaths codecs tree settings names' = .ok paths') : paths.Perm paths' := by
  obtain ⟨-, rfl⟩ := find_eq_ok_iff.mp hpaths
  obtain ⟨-, rfl⟩ := find_eq_ok_iff.mp hpaths'
  exact visited_perm (eraseDups_perm hnames)

/-- A run that is not refused visits the files one after the other. -/
theorem runSettings_eq_status (hlawful : tree.root.Lawful) (hapart : AllApart tree names)
    (hrefused : settings.isRefused = false) {last : Session} {status : Nat} :
    runSettings tools tree { settings with files := names } = (last, .status status) ↔
      ∃ paths, findPaths tools.codecs tree settings names = .ok paths ∧
        paths.foldlM (visitFile tools settings) { tree } = .ok last ∧
        status = if last.failed then 1 else 0 := by
  have hguard : ¬settings.isRefused = true := by
    rw [hrefused]
    exact Bool.false_ne_true
  -- Which names are given makes no difference for a single file.
  have hfiles : visitFile tools { settings with files := names } = visitFile tools settings := rfl
  rw [runSettings, if_neg (by exact hguard)]
  dsimp only
  rw [hfiles]
  constructor
  · intro h
    split at h
    · rename_i session hsession
      obtain ⟨rfl, hstatus⟩ := Prod.mk.inj h
      obtain ⟨hsearch, hfold⟩ := (visitNames_visitFile_eq_ok hlawful hapart.pairwise).mp hsession
      exact ⟨_, find_eq_ok_iff.mpr ⟨hsearch, rfl⟩, hfold, (Ending.status.inj hstatus).symm⟩
    · cases (Prod.mk.inj h).2
  · rintro ⟨paths, hpaths, hfold, rfl⟩
    obtain ⟨hsearch, rfl⟩ := find_eq_ok_iff.mp hpaths
    rw [(visitNames_visitFile_eq_ok hlawful hapart.pairwise).mpr ⟨hsearch, hfold⟩]

/-- A refused run does not look at any file. -/
theorem runSettings_of_refused (hrefused : settings.isRefused = true) (names : List Text) :
    runSettings tools tree { settings with files := names } =
      ({ tree, errors := ["Using both --remove-all and --imports is redundant".toList] },
        .status 1) := by
  unfold runSettings
  exact if_pos hrefused

end Runs

/-- The outcome of a command line does not depend on the order of its names, if they lead to
different places and none leads below another, for any codecs, any check and any number of rounds
that suffices. Each file that is visited ends up as if it had been fixed alone, all other files stay
as they are, and the status tells whether some file could not be read or written. Settings that are
refused have the same outcome in any order as well. -/
theorem runSettings_order_irrelevant {names names' : List Text}
    (hlawful : tree.root.Lawful) (hnames : ∀ name, name ∈ names ↔ name ∈ names')
    (hapart : AllApart tree names) {last last' : Session} {status status' : Nat}
    (hrun : runSettings tools tree { settings with files := names } = (last, .status status))
    (hrun' : runSettings tools tree { settings with files := names' } = (last', .status status')) :
    last.tree = last'.tree ∧ last.output.Perm last'.output ∧ last.errors.Perm last'.errors ∧
    status = status' ∧
    (settings.isRefused = false → ∃ paths, findPaths tools.codecs tree settings names = .ok paths ∧
      (∀ path ∈ paths, ∃ alone, (fixFile tools settings { tree } path = .ok alone ∨
          ∃ message, fixFile tools settings { tree } path = .error (alone, .access message)) ∧
        last.tree.read path = alone.tree.read path) ∧
      (∀ path, (∀ file ∈ paths, Separate tree file path) →
        last.tree.read path = tree.read path) ∧
      (status = 1 ↔ ∃ path ∈ paths, ∃ after message,
        fixFile tools settings { tree } path = .error (after, .access message))) := by
  cases hrefused : settings.isRefused with
  | true =>
    rw [runSettings_of_refused hrefused] at hrun hrun'
    obtain ⟨rfl, hstatus⟩ := Prod.mk.inj hrun
    obtain ⟨rfl, hstatus'⟩ := Prod.mk.inj hrun'
    exact ⟨rfl, .refl _, .refl _, Ending.status.inj (hstatus.symm.trans hstatus'), by simp⟩
  | false =>
    have hapart' : AllApart tree names' := fun a ha b hb =>
      hapart a ((hnames a).mpr ha) b ((hnames b).mpr hb)
    obtain ⟨paths, hpaths, hfold, hstatus⟩ :=
      (runSettings_eq_status hlawful hapart hrefused).mp hrun
    obtain ⟨paths', hpaths', hfold', hstatus'⟩ :=
      (runSettings_eq_status hlawful hapart' hrefused).mp hrun'
    have hseparate := hapart.pairwise_of_findPaths hlawful hpaths
    obtain ⟨other, hother, halike⟩ :=
      exists_alike_of_perm (perm_of_findPaths hnames hpaths hpaths') hseparate hfold
    obtain rfl : last' = other := Except.ok.inj (hfold'.symm.trans hother)
    refine ⟨halike.tree, halike.output, halike.errors, ?_, fun _ => ⟨paths, hpaths, ?_, ?_, ?_⟩⟩
    · rw [hstatus, hstatus', halike.failed]
    · intro path hpath
      obtain ⟨effect, heffect, hbear, hread⟩ := exists_effect_of_mem hfold hseparate hpath
      obtain ⟨alone, halone, htree⟩ := heffect.exists_alone hbear
      exact ⟨alone, halone, by rw [hread, htree]⟩
    · intro path hpath
      exact (agreeAt_of_foldlM hfold hpath).read
    · have hfailed := failed_iff hfold hseparate
      rw [hstatus]
      cases hlast : last.failed with
      | true => simpa [hlast] using hfailed
      | false => simpa [hlast] using hfailed

/-- A directory with a script, a source beside it, and one that cannot be written. -/
def sampleTree : FileTree where
  root := .directory [
    ("d".toList, .directory [("a".toList, .file (Utf8.encode "#!python\nimport os\n".toList))]),
    ("b.py".toList, .file (Utf8.encode "import os\n".toList)),
    ("r.py".toList, .file (Utf8.encode "import os\n".toList))]
  device := { unwritable? := fun place => if place = ["r.py".toList] then some .denied else none }

def sampleTools : Tools where
  codecs := Codecs.builtin
  check t :=
    if t = "import os\n".toList then [⟨1, .unusedImport "os".toList⟩]
    else if occursIn "import".toList t then [⟨2, .unusedImport "os".toList⟩]
    else []
  rounds := 2

def sampleSettings : Settings :=
  { recursive := true, inPlace := true, removeAllUnusedImports := true }

def sampleNames : List Text := ["d".toList, "b.py".toList, "r.py".toList]

theorem lawful_sampleTree : sampleTree.root.Lawful := by
  refine .directory _ (by decide) (by simp [Node.IsEntryName]) ?_
  intro entry hentry
  simp only [List.mem_cons, List.not_mem_nil, or_false] at hentry
  rcases hentry with rfl | rfl | rfl
  · refine .directory _ (by decide) (by simp [Node.IsEntryName]) ?_
    intro entry hentry
    rw [List.mem_singleton.mp hentry]
    exact .file _
  · exact .file _
  · exact .file _

theorem allApart_sampleNames : AllApart sampleTree sampleNames := by
  have hplaces : ∀ a ∈ sampleNames, sampleTree.locate a = .ok [a] := by decide +kernel
  intro a ha b hb hne place inner hpa hpb
  obtain rfl := Except.ok.inj ((hplaces a ha).symm.trans hpa)
  obtain rfl := Except.ok.inj ((hplaces b hb).symm.trans hpb)
  simp [hne, hne.symm]

/-- A script that is found in a directory, a source that is named, and one that can be read but not
written, in two orders. -/
theorem runSettings_order_irrelevant_sample :
    let run (names : List Text) : Session × Ending :=
      runSettings sampleTools sampleTree { sampleSettings with files := names }
    let alone (path : Text) : Except (Session × Trouble) Session :=
      fixFile sampleTools sampleSettings { tree := sampleTree } path
    (run sampleNames).2 = .status 1 ∧ (run sampleNames.reverse).2 = .status 1 ∧
    (run sampleNames).1.tree = (run sampleNames.reverse).1.tree ∧
    (run sampleNames).1.errors.Perm (run sampleNames.reverse).1.errors ∧
    (∃ after, (alone "d/a".toList = .ok after ∨
        ∃ message, alone "d/a".toList = .error (after, .access message)) ∧
      (run sampleNames).1.tree.read "d/a".toList = after.tree.read "d/a".toList) ∧
    (∃ path after message, alone path = .error (after, .access message)) ∧
    (run sampleNames).1.tree.read "d/a".toList = .ok (Utf8.encode "#!python\n".toList) ∧
    (run sampleNames).1.tree.read "r.py".toList = .ok (Utf8.encode "import os\n".toList) := by
  intro run alone
  have hstatus : (run sampleNames).2 = .status 1 := by decide +kernel
  have hstatus' : (run sampleNames.reverse).2 = .status 1 := by decide +kernel
  have hrun : run sampleNames = ((run sampleNames).1, .status 1) := Prod.ext rfl hstatus
  have hrun' : run sampleNames.reverse = ((run sampleNames.reverse).1, .status 1) :=
    Prod.ext rfl hstatus'
  have hfound : findPaths Codecs.builtin sampleTree sampleSettings sampleNames =
      .ok ["b.py".toList, "r.py".toList, "d/a".toList] := by decide +kernel
  obtain ⟨htree, -, herrors, -, hfiles⟩ := runSettings_order_irrelevant lawful_sampleTree
    (fun name => List.mem_reverse.symm) allApart_sampleNames hrun hrun'
  obtain ⟨paths, hpaths, halone, -, hfailed⟩ := hfiles rfl
  obtain rfl := Except.ok.inj (hfound.symm.trans hpaths)
  obtain ⟨path, -, hpath⟩ := hfailed.mp rfl
  exact ⟨hstatus, hstatus', htree, herrors, halone "d/a".toList (by simp), ⟨path, hpath⟩,
    by decide +kernel, by decide +kernel⟩

/-- Settings that are refused give an error status although every file can be read and written, and
leave a file as it is that would be fixed alone. -/
theorem refused_although_readable :
    let settings : Settings :=
      { inPlace := true, removeAllUnusedImports := true, imports := "os".toList }
    let source : Text := "b.py".toList
    let (last, ending) := runSettings sampleTools sampleTree { settings with files := [source] }
    ending = .status 1 ∧ findPaths sampleTools.codecs sampleTree settings [source] = .ok [source] ∧
    ∃ alone, fixFile sampleTools settings { tree := sampleTree } source = .ok alone ∧
      last.tree.read source ≠ alone.tree.read source := by
  intro settings source
  have hread : sampleTree.read source = .ok (Utf8.encode "import os\n".toList) := by decide +kernel
  have hdraft : draft sampleTools settings.options (Utf8.encode "import os\n".toList) =
      .ok ⟨"utf-8".toList, "import os\n".toList, []⟩ := by decide +kernel
  have hfix : fixFile sampleTools settings { tree := sampleTree } source =
      .ok { tree := sampleTree.withFile [source] [] } := by
    rw [fixFile_of_draft settings hread hdraft, if_neg (by decide), if_pos rfl]
    exact store_eq_ok.mpr ⟨[source], [], by decide +kernel, by decide +kernel, rfl, rfl⟩
  refine ⟨rfl, by decide +kernel, _, hfix, ?_⟩
  change sampleTree.read source ≠ _
  decide +kernel

end Pruner.Command
