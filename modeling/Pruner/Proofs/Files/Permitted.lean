import Pruner.Proofs.Encoding.Charset
import Pruner.Proofs.Files.Find
import Mathlib.Data.List.Forall2
import Mathlib.Logic.Relation

/-!
Which files are visited: what is named, and below a directory that is named exactly the files to
which only admitted paths lead, each once for each time that the directory is named.

The names form a work list. A directory is taken off its front, and the files found below it are put
at its end, where they come to their turn as names that stand for themselves. So the list gets empty,
unless the search below a directory comes upon a file whose codec fails in a way that is not foreseen.
Then no file is visited any more.
-/
namespace Pruner.Files

open Pruner.Text Pruner.Fix

variable {codecs : Codecs} {tree : FileTree} {recursive : Bool} {exclude : List Text}

section Shares

/-- A file that is found below a directory stands for itself. -/
theorem isWalked_of_mem_filesOf (hlawful : tree.root.Lawful) {name file : Text} {files : List Text}
    (hname : isWalked tree recursive name = true)
    (h : filesOf codecs tree exclude name = .ok files) (hfile : file ∈ files) :
    isWalked tree recursive file = false := by
  obtain ⟨place, rest, content, -, hlocate, hcontent⟩ :=
    exists_place_of_mem_filesOf hlawful hname h hfile
  have hkind : tree.kindAt (place ++ rest) = some false := by
    rw [FileTree.kindAt, hcontent]
    rfl
  rw [isWalked, FileTree.isDirectory_eq_of_locate hlocate, hkind]
  exact Bool.and_false recursive

/-- What a name stands for: itself, unless directories are to be looked through and it is one, and
else the permitted files below it, each once. -/
inductive StandsFor (codecs : Codecs) (tree : FileTree) (recursive : Bool) (exclude : List Text)
    (name : Text) : List Text → Prop
  | itself (h : recursive = false ∨ tree.isDirectory name = false) :
      StandsFor codecs tree recursive exclude name [name]
  | below {place : List Text} {entries : List (Text × Node)} {files : List Text}
      (hrecursive : recursive = true) (hname : tree.locate name = .ok place)
      (hnode : tree.root.at? place = some (.directory entries))
      (hfiles : Enumerates name
        (Permitted (isAdmitted codecs tree exclude) name (.directory entries)) files) :
      StandsFor codecs tree recursive exclude name files

/-- The files that one name adds to those that are visited. -/
def share (codecs : Codecs) (tree : FileTree) (recursive : Bool) (exclude : List Text)
    (name : Text) : List Text :=
  if isWalked tree recursive name then foundBelow codecs tree exclude name else [name]

theorem standsFor_share (hlawful : tree.root.Lawful) {names : List Text}
    (hsearch : Searchable codecs tree recursive exclude names) {name : Text} (hname : name ∈ names) :
    StandsFor codecs tree recursive exclude name (share codecs tree recursive exclude name) := by
  rw [share]
  split
  · rename_i hwalked
    obtain ⟨place, entries, hplace, hnode, hfiles, -⟩ :=
      exists_places_of_filesOf hlawful hwalked (hsearch name hname hwalked)
    exact .below (Bool.and_eq_true_iff.mp hwalked).1 hplace hnode hfiles
  · rename_i hself
    refine .itself ?_
    rwa [Bool.not_eq_true, isWalked, Bool.and_eq_false_iff] at hself

theorem visited_perm_shares (codecs : Codecs) (tree : FileTree) (recursive : Bool)
    (exclude names : List Text) :
    (visited codecs tree recursive exclude [] names).Perm
      (names.flatMap (share codecs tree recursive exclude)) := by
  rw [visited, List.nil_append]
  induction names with
  | nil => exact .refl []
  | cons name names ih =>
    rw [List.flatMap_cons, share]
    cases hname : isWalked tree recursive name with
    | true =>
      -- The files of this name come after the names that stand for themselves.
      simp only [List.filter_cons, hname, Bool.not_true, if_true, List.flatMap_cons]
      exact (List.perm_append_comm_assoc ..).trans (ih.append_left _)
    | false =>
      simp only [List.filter_cons, hname, Bool.not_false, if_true]
      exact ih.cons name

end Shares

section WorkList

/-- One turn of the work list, with the names that have been visited beside it. A directory gives way
to the files found below it, which are put at the end of the list; any other name is visited. There
is no turn if the search below a directory fails. -/
inductive Turn (codecs : Codecs) (tree : FileTree) (recursive : Bool) (exclude : List Text) :
    List Text × List Text → List Text × List Text → Prop
  | walk {name : Text} {files : List Text} (queue done : List Text)
      (h : isWalked tree recursive name = true)
      (hfiles : filesOf codecs tree exclude name = .ok files) :
      Turn codecs tree recursive exclude (name :: queue, done) (queue ++ files, done)
  | visit {name : Text} (queue done : List Text) (h : isWalked tree recursive name = false) :
      Turn codecs tree recursive exclude (name :: queue, done) (queue, done ++ [name])

theorem turn_rightUnique : Relator.RightUnique (Turn codecs tree recursive exclude) := by
  rintro _ _ _ (⟨queue, done, h, hfiles⟩ | ⟨queue, done, h⟩) h'
  · cases h' with
    | walk _ _ _ hfiles' => rw [Except.ok.inj (hfiles.symm.trans hfiles')]
    | visit _ _ hnot => simp [h] at hnot
  · cases h' with
    | walk _ _ hwalked => simp [h] at hwalked
    | visit => rfl

/-- From names, and behind them files that were found, the list gets empty if every search comes to
an end. -/
theorem turns_visited (hlawful : tree.root.Lawful) {names : List Text}
    (hsearch : Searchable codecs tree recursive exclude names) (found done : List Text)
    (hfound : ∀ file ∈ found, isWalked tree recursive file = false) :
    Relation.ReflTransGen (Turn codecs tree recursive exclude) (names ++ found, done)
      ([], done ++ visited codecs tree recursive exclude found names) := by
  induction names generalizing found done with
  | nil =>
    rw [List.nil_append, visited_nil]
    induction found generalizing done with
    | nil => rw [List.append_nil]
    | cons file found ih =>
      rw [List.forall_mem_cons] at hfound
      refine .head (.visit found done hfound.1) ?_
      simpa using ih (done ++ [file]) hfound.2
  | cons name names ih =>
    rw [Searchable, List.forall_mem_cons] at hsearch
    cases hname : isWalked tree recursive name with
    | true =>
      have hbelow := hsearch.1 hname
      rw [visited_cons_of_walked hname]
      -- What is found joins the files at the end, and is not looked through again.
      refine .head (.walk (names ++ found) done hname hbelow) ?_
      rw [List.append_assoc]
      apply ih hsearch.2
      intro file hfile
      rcases List.mem_append.mp hfile with hfile | hfile
      · exact hfound file hfile
      · exact isWalked_of_mem_filesOf hlawful hname hbelow hfile
    | false =>
      rw [visited_cons_of_not hname]
      refine .head (.visit (names ++ found) done hname) ?_
      have hrest := ih hsearch.2 found (done ++ [name]) hfound
      rwa [List.append_assoc, List.singleton_append] at hrest

/-- A work list that gets empty has every name searched. -/
theorem searchable_of_turns {queue done last : List Text}
    (h : Relation.ReflTransGen (Turn codecs tree recursive exclude) (queue, done) ([], last)) :
    Searchable codecs tree recursive exclude queue := by
  generalize hstart : (queue, done) = start at h
  generalize hend : (([] : List Text), last) = finish at h
  induction h using Relation.ReflTransGen.head_induction_on generalizing queue done with
  | refl =>
    obtain ⟨rfl, -⟩ := Prod.mk.inj (hstart.trans hend.symm)
    simp [Searchable]
  | head hturn _ ih =>
    subst hstart
    cases hturn with
    | walk queue done hname hfiles =>
      have hrest := ih rfl
      refine List.forall_mem_cons.mpr ⟨fun _ => ?_, fun name hname => ?_⟩
      · rw [foundBelow_of_ok hfiles, hfiles]
      · exact hrest name (List.mem_append_left _ hname)
    | visit queue done hname =>
      exact List.forall_mem_cons.mpr ⟨fun hwalked => by simp [hname] at hwalked, ih rfl⟩

/-- The work list gets empty if and only if the files to work on can be found, and then these have
been visited. -/
theorem turns_find_iff (hlawful : tree.root.Lawful) (names done : List Text) :
    Relation.ReflTransGen (Turn codecs tree recursive exclude) (names, []) ([], done) ↔
      find codecs tree recursive exclude names = .ok done := by
  have hrun (hsearch : Searchable codecs tree recursive exclude names) :
      Relation.ReflTransGen (Turn codecs tree recursive exclude) (names, [])
        ([], visited codecs tree recursive exclude [] names) := by
    simpa using turns_visited hlawful hsearch [] [] (by simp)
  have hlast {a : List Text} {s : List Text × List Text}
      (h : Relation.ReflTransGen (Turn codecs tree recursive exclude) ([], a) s) : ([], a) = s := by
    rcases h.cases_head with h | ⟨next, h, -⟩
    · exact h
    · cases h
  rw [find_eq_ok_iff]
  constructor
  · intro h
    have hsearch := searchable_of_turns h
    refine ⟨hsearch, ?_⟩
    -- Of two runs from the same list one goes on from the other, and from the empty list none does.
    rcases Relation.ReflTransGen.total_of_right_unique turn_rightUnique h (hrun hsearch) with h | h
    · exact (Prod.mk.inj (hlast h)).2.symm
    · exact (Prod.mk.inj (hlast h)).2
  · rintro ⟨hsearch, rfl⟩
    exact hrun hsearch

end WorkList

section Barred

theorem baseName_joinPath {name : Text} (h : '/' ∉ name) (directory : Text) :
    baseName (joinPath directory name) = name := by
  have hname : ∀ c ∈ name.reverse, (c != '/') = true := by
    intro c hc
    rw [bne_iff_ne]
    rintro rfl
    exact h (List.mem_reverse.mp hc)
  have hslash (front : Text) : baseName (front ++ '/' :: name) = name := by
    rw [baseName, List.reverse_append, List.reverse_cons, List.append_assoc,
      List.takeWhile_append_of_pos hname]
    simp
  rw [joinPath]
  split
  · rename_i hends
    rw [Bool.or_eq_true, List.isEmpty_iff, beq_iff_eq] at hends
    rcases hends with rfl | hends
    · have hall : name.reverse.takeWhile (· != '/') = name.reverse := by
        simpa using @List.takeWhile_append_of_pos _ _ _ [] hname
      rw [baseName, List.nil_append, hall, List.reverse_reverse]
    · obtain ⟨front, rfl⟩ := List.getLast?_eq_some_iff.mp hends
      rw [List.append_assoc, List.singleton_append]
      exact hslash front
  · exact hslash directory

/-- A name is hidden, or a pattern fits it or the path that leads there. -/
def IsBarred (exclude : List Text) (path name : Text) : Prop :=
  startsWith ['.'] name = true ∨
    ∃ pattern ∈ exclude, Glob.fits pattern name = true ∨ Glob.fits pattern path = true

theorem not_isBarred_of_isAdmitted {directory name : Text} (hname : '/' ∉ name)
    (h : isAdmitted codecs tree exclude (joinPath directory name) = .ok true) :
    ¬IsBarred exclude (joinPath directory name) name := by
  intro hbarred
  have hno : isAdmitted codecs tree exclude (joinPath directory name) = .ok false := by
    rw [isAdmitted, baseName_joinPath hname]
    refine if_pos ?_
    rw [Bool.or_eq_true, List.any_eq_true]
    simpa only [IsBarred, Bool.or_eq_true] using hbarred
  rw [hno] at h
  cases h

/-- No name on the way to a permitted file is hidden or excluded. -/
theorem Permitted.not_isBarred {path : Text} {node : Node} {names : List Text}
    (hlawful : node.Lawful) (h : Permitted (isAdmitted codecs tree exclude) path node names)
    {front : List Text} {name : Text} (hfront : front ++ [name] <+: names) :
    ¬IsBarred exclude (pathBelow path (front ++ [name])) name := by
  obtain ⟨content, hcontent⟩ := h.to_file
  have hname := hlawful.isEntryName_of_at? hcontent name (hfront.subset (by simp))
  have hadmitted := h.on_the_way _ (by simp) hfront
  rw [pathBelow_concat] at hadmitted ⊢
  exact not_isBarred_of_isAdmitted hname.2.2.2 hadmitted

/-- A file that a name stands for is that name, or nothing on the way from there to it is barred. -/
theorem StandsFor.not_isBarred {name file : Text} {files : List Text}
    (h : StandsFor codecs tree recursive exclude name files) (hlawful : tree.root.Lawful)
    (hfile : file ∈ files) :
    file = name ∨ ∃ rest, file = pathBelow name rest ∧ ∀ front part, front ++ [part] <+: rest →
      ¬IsBarred exclude (pathBelow name (front ++ [part])) part := by
  cases h with
  | itself => exact Or.inl (List.mem_singleton.mp hfile)
  | below _ _ hnode hfiles =>
    obtain ⟨places, -, hmem, rfl⟩ := hfiles
    obtain ⟨rest, hrest, rfl⟩ := List.mem_map.mp hfile
    refine Or.inr ⟨rest, rfl, fun front part hfront => ?_⟩
    exact ((hmem rest).mp hrest).not_isBarred (hlawful.at? hnode) hfront

end Barred

section LookedAt

/-- A path below a name that is looked at: only admitted directories lead to it. -/
inductive LookedAt (codecs : Codecs) (tree : FileTree) (exclude : List Text) (name : Text) :
    Text → Prop
  | below {place : List Text} {entries : List (Text × Node)} {names : List Text}
      (hname : tree.locate name = .ok place)
      (hnode : tree.root.at? place = some (.directory entries))
      (hreached : Reached (isAdmitted codecs tree exclude) name (.directory entries) names) :
      LookedAt codecs tree exclude name (pathBelow name names)

theorem LookedAt.exists_answer {name path : Text} {files : List Text}
    (hlooked : LookedAt codecs tree exclude name path) (hlawful : tree.root.Lawful)
    (hname : isWalked tree recursive name = true)
    (h : filesOf codecs tree exclude name = .ok files) :
    ∃ answer, isAdmitted codecs tree exclude path = .ok answer := by
  obtain ⟨hplace, hnode, hreached⟩ := hlooked
  obtain ⟨place', entries', hplace', hnode', hentries⟩ := exists_directory_of_isWalked hname
  obtain rfl := Except.ok.inj (hplace.symm.trans hplace')
  obtain rfl := Node.directory.inj (Option.some.inj (hnode.symm.trans hnode'))
  rw [filesOf, hentries] at h
  exact hreached.exists_answer (hlawful.at? hnode) h

theorem exists_lookedAt_of_error {name : Text} {e : CodecError} (hlawful : tree.root.Lawful)
    (hname : isWalked tree recursive name = true)
    (h : filesOf codecs tree exclude name = .error e) :
    ∃ path, LookedAt codecs tree exclude name path ∧
      isAdmitted codecs tree exclude path = .error e := by
  obtain ⟨place, entries, hplace, hnode, hentries⟩ := exists_directory_of_isWalked hname
  rw [filesOf, hentries] at h
  obtain ⟨names, hreached, herror⟩ := exists_reached_of_error (hlawful.at? hnode) h
  exact ⟨_, .below hplace hnode hreached, herror⟩

end LookedAt

/-- The files to work on, in a tree of directories and files. The work list of the names gets empty
exactly if they can be found, and what was visited then are these files and in this order. They are,
up to their order, those that the single names stand for. One that was not named itself has nothing
hidden or excluded on the way to it from a name. They can be found exactly if every path that is
looked at below a named directory is either admitted or not. Otherwise one of these paths gives an
error of a codec instead, and the search ends with that error. -/
theorem find_visits_permitted_files (codecs : Codecs) (tree : FileTree) (hlawful : tree.root.Lawful)
    (recursive : Bool) (exclude names : List Text) :
    (∀ done, Relation.ReflTransGen (Turn codecs tree recursive exclude) (names, []) ([], done) ↔
      find codecs tree recursive exclude names = .ok done) ∧
    (∀ files, find codecs tree recursive exclude names = .ok files →
      (∃ shares : List (List Text),
        List.Forall₂ (StandsFor codecs tree recursive exclude) names shares ∧
          files.Perm shares.flatten) ∧
      ∀ file ∈ files, file ∈ names ∨ ∃ name ∈ names, ∃ rest, file = pathBelow name rest ∧
        ∀ front part, front ++ [part] <+: rest →
          ¬IsBarred exclude (pathBelow name (front ++ [part])) part) ∧
    ((∃ files, find codecs tree recursive exclude names = .ok files) ↔
      ∀ name ∈ names, isWalked tree recursive name = true →
        ∀ path, LookedAt codecs tree exclude name path →
          ∃ answer, isAdmitted codecs tree exclude path = .ok answer) ∧
    ∀ e, find codecs tree recursive exclude names = .error e →
      ∃ name ∈ names, isWalked tree recursive name = true ∧
        ∃ path, LookedAt codecs tree exclude name path ∧
          isAdmitted codecs tree exclude path = .error e := by
  have herror (e : CodecError) (h : find codecs tree recursive exclude names = .error e) :
      ∃ name ∈ names, isWalked tree recursive name = true ∧
        ∃ path, LookedAt codecs tree exclude name path ∧
          isAdmitted codecs tree exclude path = .error e := by
    obtain ⟨name, hname, hwalked, hfails⟩ := exists_of_find_eq_error h
    exact ⟨name, hname, hwalked, exists_lookedAt_of_error hlawful hwalked hfails⟩
  refine ⟨turns_find_iff hlawful names, ?_, ⟨?_, ?_⟩, herror⟩
  · intro files h
    obtain ⟨hsearch, rfl⟩ := find_eq_ok_iff.mp h
    have hperm := visited_perm_shares codecs tree recursive exclude names
    have hshare (name : Text) (hname : name ∈ names) := standsFor_share hlawful hsearch hname
    refine ⟨⟨names.map (share codecs tree recursive exclude), ?_, ?_⟩, ?_⟩
    · rw [List.forall₂_map_right_iff, List.forall₂_same]
      exact hshare
    · rwa [← List.flatMap_def]
    · intro file hfile
      obtain ⟨name, hname, hfile⟩ := List.mem_flatMap.mp (hperm.mem_iff.mp hfile)
      rcases (hshare name hname).not_isBarred hlawful hfile with rfl | ⟨rest, hrest, hway⟩
      · exact Or.inl hname
      · exact Or.inr ⟨name, hname, rest, hrest, hway⟩
  · rintro ⟨files, h⟩ name hname hwalked path hlooked
    exact hlooked.exists_answer hlawful hwalked ((find_eq_ok_iff.mp h).1 name hname hwalked)
  · intro hanswers
    cases h : find codecs tree recursive exclude names with
    | ok files => exact ⟨files, rfl⟩
    | error e =>
      obtain ⟨name, hname, hwalked, path, hlooked, hfails⟩ := herror e h
      obtain ⟨answer, hanswer⟩ := hanswers name hname hwalked path hlooked
      rw [hanswer] at hfails
      cases hfails

/-- A directory with a file, a hidden directory and one that is excluded, and a file beside it. -/
def nestedTree : FileTree where
  root := .directory [
    ("d".toList, .directory [
      ("a.py".toList, .file []),
      (".h".toList, .directory [("b.py".toList, .file [])]),
      ("x".toList, .directory [("c.py".toList, .file [])])]),
    ("e.txt".toList, .file [])]

/-- A directory with a source, and with notes that claim to be in UTF-16. -/
def notesTree : FileTree where
  root := .directory [
    ("d".toList, .directory [
      ("a.py".toList, .file []),
      ("notes.txt".toList, .file (Utf8.encode "# coding: utf-16\nnotes\n".toList))])]

theorem lawful_nestedTree : nestedTree.root.Lawful := by
  have hone (name : Text) (hname : Node.IsEntryName name) :
      (Node.directory [(name, .file [])]).Lawful := by
    refine .directory _ (List.nodup_singleton _) (by simpa using hname) ?_
    intro entry hentry
    rw [List.mem_singleton.mp hentry]
    exact .file []
  refine .directory _ (by decide) (by simp [Node.IsEntryName]) ?_
  intro entry hentry
  simp only [List.mem_cons, List.not_mem_nil, or_false] at hentry
  rcases hentry with rfl | rfl
  · refine .directory _ (by decide) (by simp [Node.IsEntryName]) ?_
    intro entry hentry
    simp only [List.mem_cons, List.not_mem_nil, or_false] at hentry
    rcases hentry with rfl | rfl | rfl
    · exact .file []
    · exact hone _ (by simp [Node.IsEntryName])
    · exact hone _ (by simp [Node.IsEntryName])
  · exact .file []

theorem lawful_notesTree : notesTree.root.Lawful := by
  refine .directory _ (List.nodup_singleton _) (by simp [Node.IsEntryName]) ?_
  intro entry hentry
  rw [List.mem_singleton.mp hentry]
  refine .directory _ (by decide) (by simp [Node.IsEntryName]) ?_
  intro entry hentry
  simp only [List.mem_cons, List.not_mem_nil, or_false] at hentry
  rcases hentry with rfl | rfl
  · exact .file _
  · exact .file _

/-- A hidden directory is passed over below another one, but not where it is named. Notes that cannot
be read keep the source beside them from being visited. -/
theorem notes_keep_source_from_visit :
    (nestedTree.root.Lawful ∧
      Relation.ReflTransGen (Turn Codecs.builtin nestedTree true ["x".toList])
        (["d".toList, "e.txt".toList, "d/.h".toList], [])
        ([], ["e.txt".toList, "d/a.py".toList, "d/.h/b.py".toList]) ∧
      ∃ shares : List (List Text),
        List.Forall₂ (StandsFor Codecs.builtin nestedTree true ["x".toList])
          ["d".toList, "e.txt".toList, "d/.h".toList] shares ∧
        ["e.txt".toList, "d/a.py".toList, "d/.h/b.py".toList].Perm shares.flatten) ∧
    notesTree.root.Lawful ∧
      isAdmitted Codecs.builtin notesTree [] "d/a.py".toList = .ok true ∧
      (∀ done, ¬Relation.ReflTransGen (Turn Codecs.builtin notesTree true []) (["d".toList], [])
        ([], done)) ∧
      ∃ path, LookedAt Codecs.builtin notesTree [] "d".toList path ∧
        ∃ message, isAdmitted Codecs.builtin notesTree [] path = .error (.rejected message) := by
  have hfind : find Codecs.builtin nestedTree true ["x".toList]
      ["d".toList, "e.txt".toList, "d/.h".toList] =
        .ok ["e.txt".toList, "d/a.py".toList, "d/.h/b.py".toList] := by decide +kernel
  have hfail : find Codecs.builtin notesTree true [] ["d".toList] =
      .error (.rejected "UTF-16 stream does not start with BOM".toList) := by decide +kernel
  obtain ⟨hturns, hshares, -⟩ := find_visits_permitted_files Codecs.builtin nestedTree
    lawful_nestedTree true ["x".toList] ["d".toList, "e.txt".toList, "d/.h".toList]
  obtain ⟨hturns', -, -, herror⟩ := find_visits_permitted_files Codecs.builtin notesTree
    lawful_notesTree true [] ["d".toList]
  refine ⟨⟨lawful_nestedTree, (hturns _).mpr hfind, (hshares _ hfind).1⟩, lawful_notesTree,
    by decide +kernel, ?_, ?_⟩
  · intro done h
    have hok := (hturns' done).mp h
    rw [hfail] at hok
    cases hok
  · obtain ⟨name, hname, -, path, hlooked, hpath⟩ := herror _ hfail
    rw [List.mem_singleton.mp hname] at hlooked
    exact ⟨path, hlooked, _, hpath⟩

end Pruner.Files
