import Pruner.Files.Find
import Pruner.Proofs.Files.Tree
import Pruner.Proofs.Fix.Round
import Pruner.Proofs.Text.Pieces
import Mathlib.Data.List.Nodup

namespace Pruner

namespace Node

theorem Lawful.isEntryName_of_at? {node inner : Node} {names : List Text} (hlawful : node.Lawful)
    (h : node.at? names = some inner) : ∀ name ∈ names, IsEntryName name := by
  induction names generalizing node with
  | nil => simp
  | cons name names ih =>
    obtain ⟨entries, next, rfl, hnext, hinner⟩ := exists_entry_of_at? h
    cases hlawful with
    | directory _ _ named inner =>
      have hmem := mem_of_lookup hnext
      rw [List.forall_mem_cons]
      exact ⟨named _ hmem, ih (inner _ hmem) hinner⟩

end Node

namespace Files

open Pruner.Text Pruner.Fix

section Paths

variable {tree : FileTree} {path : Text} {place : List Text}

theorem enter_entry {entries : List (Text × Node)} {name : Text}
    (hdirectory : tree.root.at? place = some (.directory entries)) (hname : Node.IsEntryName name)
    (hentry : (entries.lookup name).isSome) : tree.enter place name = .ok (place ++ [name]) := by
  obtain ⟨hempty, hdot, hdots, -⟩ := hname
  unfold FileTree.enter
  rw [hdirectory]
  simp [hempty, hdot, hdots, hentry]

theorem eq_of_enter_nil {other : List Text} (h : tree.enter other [] = .ok place) :
    other = place := by
  unfold FileTree.enter at h
  split at h
  · simp at h
  · simp at h
  · simpa using h

/-- A path is followed up to its last part, and from there to that part. -/
theorem foldlM_enter_concat {start : List Text} {parts : List Text} {part : Text} :
    (parts ++ [part]).foldlM tree.enter start = .ok place ↔
      ∃ other, parts.foldlM tree.enter start = .ok other ∧ tree.enter other part = .ok place := by
  rw [List.foldlM_append]
  cases parts.foldlM tree.enter start with
  | error e => simp [bind, Except.bind]
  | ok other =>
    cases hpart : tree.enter other part with
    | error e => simp [bind, Except.bind, hpart]
    | ok next => simp [bind, Except.bind, hpart, pure, Except.pure]

theorem pieces_slash_append {name : Text} (h : '/' ∉ name) (s : Text) :
    pieces (· == '/') (s ++ '/' :: name) = pieces (· == '/') s ++ [name] := by
  rw [pieces_append_separator, pieces_of_not_mem h]

/-- The path of an entry leads from the directory to the entry. -/
theorem locate_joinPath {entries : List (Text × Node)} {name : Text}
    (hpath : tree.locate path = .ok place)
    (hdirectory : tree.root.at? place = some (.directory entries)) (hname : Node.IsEntryName name)
    (hentry : (entries.lookup name).isSome) :
    tree.locate (joinPath path name) = .ok (place ++ [name]) := by
  have henter := enter_entry hdirectory hname hentry
  have hslash : '/' ∉ name := hname.2.2.2
  unfold FileTree.locate at hpath ⊢
  cases path with
  | nil => simp at hpath
  | cons c cs =>
    rw [List.head?_cons, List.isEmpty_cons, if_neg Bool.false_ne_true] at hpath
    by_cases hlast : (c :: cs).getLast? = some '/'
    · -- The last piece of the path is empty, and the name takes its place.
      obtain ⟨front, hfront⟩ := List.getLast?_eq_some_iff.mp hlast
      have hsame : c :: cs ++ name = front ++ '/' :: name := by
        rw [hfront]
        simp
      have hjoin : joinPath (c :: cs) name = front ++ '/' :: name := by
        rw [joinPath, hlast, ← hsame]
        simp
      have hhead : (front ++ '/' :: name).head? = some c := by
        rw [← hsame]
        rfl
      rw [hfront, pieces_slash_append (by simp), foldlM_enter_concat] at hpath
      obtain ⟨other, hother, hempty⟩ := hpath
      rw [eq_of_enter_nil hempty] at hother
      rw [hjoin, hhead, if_neg (by simp), pieces_slash_append hslash, foldlM_enter_concat]
      exact ⟨place, hother, henter⟩
    · have hjoin : joinPath (c :: cs) name = c :: cs ++ '/' :: name := by
        rw [joinPath]
        simp [hlast]
      rw [hjoin, if_neg (by simp), pieces_slash_append hslash, foldlM_enter_concat,
        List.cons_append, List.head?_cons]
      exact ⟨place, hpath, henter⟩

/-- The path of what names lead to, below a directory that has a path. -/
def pathBelow (path : Text) (names : List Text) : Text :=
  names.foldl joinPath path

theorem pathBelow_cons (path name : Text) (names : List Text) :
    pathBelow path (name :: names) = pathBelow (joinPath path name) names := rfl

theorem pathBelow_concat (path : Text) (names : List Text) (name : Text) :
    pathBelow path (names ++ [name]) = joinPath (pathBelow path names) name :=
  List.foldl_concat ..

/-- The path of what is below a directory leads there. -/
theorem locate_pathBelow (hlawful : tree.root.Lawful) {node inner : Node} {names : List Text}
    (hpath : tree.locate path = .ok place) (hnode : tree.root.at? place = some node)
    (hinner : node.at? names = some inner) :
    tree.locate (pathBelow path names) = .ok (place ++ names) := by
  induction names generalizing path place node with
  | nil => simpa [pathBelow] using hpath
  | cons name names ih =>
    obtain ⟨entries, next, rfl, hnext, hinner'⟩ := Node.exists_entry_of_at? hinner
    have hname := (hlawful.at? hnode).isEntryName_of_at? hinner name List.mem_cons_self
    have hlocate := locate_joinPath hpath hnode hname (by rw [hnext]; rfl)
    have hat : tree.root.at? (place ++ [name]) = some next := by
      rw [Node.at?_append, hnode, Option.bind_some, Node.at?_cons, Node.entries, hnext]
      rfl
    rw [pathBelow_cons, ih hlocate hat hinner', List.append_assoc, List.singleton_append]

end Paths

section Search

variable {admitted admitted' : Text → Except CodecError Bool} {path name : Text} {node : Node}
  {entries rest : List (Text × Node)} {files : List Text} {e : CodecError}

/-- What an entry of a directory adds to the files that are found deeper. -/
def Entered (admitted : Text → Except CodecError Bool) (path : Text) (node : Node)
    (found : List Text) : Prop :=
  node.isDirectory = false ∧ found = [] ∨ node.isDirectory = true ∧ ∃ answer,
    admitted path = .ok answer ∧ (if answer then filesBelow admitted path node else .ok []) = .ok found

theorem filesBelow_directory_eq_ok :
    filesBelow admitted path (.directory entries) = .ok files ↔ ∃ here,
      filesAmong admitted path entries = .ok here ∧ ∃ deeper,
        filesDeeper admitted path entries = .ok deeper ∧ here ++ deeper = files := by
  simp only [filesBelow, bind_eq_ok, pure, Except.pure, Except.ok.injEq]

theorem filesAmong_cons_eq_ok :
    filesAmong admitted path ((name, node) :: rest) = .ok files ↔ ∃ found,
      (if node.isDirectory then .ok false else admitted (joinPath path name)) = .ok found ∧ ∃ others,
        filesAmong admitted path rest = .ok others ∧
          (if found then joinPath path name :: others else others) = files := by
  simp only [filesAmong, bind_eq_ok, pure, Except.pure, Except.ok.injEq]

theorem filesDeeper_cons_eq_ok :
    filesDeeper admitted path ((name, node) :: rest) = .ok files ↔ ∃ found,
      Entered admitted (joinPath path name) node found ∧ ∃ others,
        filesDeeper admitted path rest = .ok others ∧ found ++ others = files := by
  have hentered (found : List Text) : Entered admitted (joinPath path name) node found ↔ ∃ answer,
      (if node.isDirectory then admitted (joinPath path name) else .ok false) = .ok answer ∧
        (if answer then filesBelow admitted (joinPath path name) node else .ok []) = .ok found := by
    cases hkind : node.isDirectory with
    | true => simp [Entered, hkind]
    | false => simp [Entered, hkind, eq_comm]
  simp only [filesDeeper, bind_eq_ok, hentered, pure, Except.pure, Except.ok.injEq]
  constructor
  · rintro ⟨answer, hanswer, found, hfound, others, hothers, rfl⟩
    exact ⟨found, ⟨answer, hanswer, hfound⟩, others, hothers, rfl⟩
  · rintro ⟨found, ⟨answer, hanswer, hfound⟩, others, hothers, rfl⟩
    exact ⟨answer, hanswer, found, hfound, others, hothers, rfl⟩

/-- A search among the files of a directory fails where one of them gives no answer. -/
theorem exists_of_filesAmong_eq_error (h : filesAmong admitted path entries = .error e) :
    ∃ entry ∈ entries, entry.2.isDirectory = false ∧
      admitted (joinPath path entry.1) = .error e := by
  induction entries with
  | nil => cases h
  | cons entry rest ih =>
    obtain ⟨name, node⟩ := entry
    simp only [filesAmong, bind_eq_error, pure, Except.pure, reduceCtorEq, and_false, exists_false,
      or_false] at h
    rcases h with h | ⟨_, -, h⟩
    · cases hkind : node.isDirectory with
      | true => simp [hkind] at h
      | false => exact ⟨(name, node), List.mem_cons_self, hkind, by simpa [hkind] using h⟩
    · obtain ⟨entry, hentry, hfound⟩ := ih h
      exact ⟨entry, List.mem_cons_of_mem _ hentry, hfound⟩

/-- A search through the directories in a directory fails where one of them gives no answer, or where
the search below one fails. -/
theorem exists_of_filesDeeper_eq_error (h : filesDeeper admitted path entries = .error e) :
    ∃ entry ∈ entries, admitted (joinPath path entry.1) = .error e ∨
      admitted (joinPath path entry.1) = .ok true ∧
        filesBelow admitted (joinPath path entry.1) entry.2 = .error e := by
  induction entries with
  | nil => cases h
  | cons entry rest ih =>
    obtain ⟨name, node⟩ := entry
    simp only [filesDeeper, bind_eq_error, pure, Except.pure, reduceCtorEq, and_false, exists_false,
      or_false] at h
    rcases h with h | ⟨answer, hanswer, h | ⟨_, -, h⟩⟩
    · refine ⟨(name, node), List.mem_cons_self, Or.inl ?_⟩
      cases hkind : node.isDirectory with
      | true => simpa [hkind] using h
      | false => simp [hkind] at h
    · cases answer with
      | false => cases h
      | true =>
        refine ⟨(name, node), List.mem_cons_self, Or.inr ⟨?_, h⟩⟩
        cases hkind : node.isDirectory with
        | true => simpa [hkind] using hanswer
        | false => simp [hkind] at hanswer
    · obtain ⟨entry, hentry, hfound⟩ := ih h
      exact ⟨entry, List.mem_cons_of_mem _ hentry, hfound⟩

theorem filesAmong_congr (h : ∀ entry ∈ entries,
      admitted (joinPath path entry.1) = admitted' (joinPath path entry.1)) :
    filesAmong admitted path entries = filesAmong admitted' path entries := by
  induction entries with
  | nil => rfl
  | cons entry rest ih =>
    rw [List.forall_mem_cons] at h
    rw [filesAmong, filesAmong, ih h.2, h.1]

theorem filesDeeper_congr (h : ∀ entry ∈ entries,
      admitted (joinPath path entry.1) = admitted' (joinPath path entry.1) ∧
        filesBelow admitted (joinPath path entry.1) entry.2 =
          filesBelow admitted' (joinPath path entry.1) entry.2) :
    filesDeeper admitted path entries = filesDeeper admitted' path entries := by
  induction entries with
  | nil => rw [filesDeeper, filesDeeper]
  | cons entry rest ih =>
    rw [List.forall_mem_cons] at h
    rw [filesDeeper, filesDeeper, ih h.2, h.1.1, h.1.2]

/-- What is found below a node depends on what is answered for the paths in there. -/
theorem filesBelow_congr (hlawful : node.Lawful) (h : ∀ names, names ≠ [] →
      (node.at? names).isSome = true → admitted (pathBelow path names) = admitted' (pathBelow path names)) :
    filesBelow admitted path node = filesBelow admitted' path node := by
  induction hlawful generalizing path with
  | file content => rw [filesBelow, filesBelow]
  | directory entries nodup named inner ih =>
    have hlookup (entry : Text × Node) (hentry : entry ∈ entries) :
        entries.lookup entry.1 = some entry.2 := Node.lookup_of_mem nodup hentry
    have hhere (entry : Text × Node) (hentry : entry ∈ entries) :
        admitted (joinPath path entry.1) = admitted' (joinPath path entry.1) := by
      apply h [entry.1] (List.cons_ne_nil _ _)
      rw [Node.at?_cons, Node.entries, hlookup entry hentry]
      rfl
    have hbelow (entry : Text × Node) (hentry : entry ∈ entries) :
        filesBelow admitted (joinPath path entry.1) entry.2 =
          filesBelow admitted' (joinPath path entry.1) entry.2 := by
      apply ih entry hentry
      intro names _ hthere
      apply h (entry.1 :: names) (List.cons_ne_nil _ _)
      rwa [Node.at?_cons, Node.entries, hlookup entry hentry]
    rw [filesBelow, filesBelow, filesAmong_congr hhere,
      filesDeeper_congr fun entry hentry => ⟨hhere entry hentry, hbelow entry hentry⟩]

end Search

section Places

variable {admitted : Text → Except CodecError Bool} {path : Text} {node : Node}
  {entries : List (Text × Node)} {names files : List Text} {e : CodecError}

/-- Names lead down from a node to another one, and the paths of all directories on the way are
admitted. -/
structure Reached (admitted : Text → Except CodecError Bool) (path : Text) (node : Node)
    (names : List Text) : Prop where
  down : names ≠ []
  there : (node.at? names).isSome = true
  on_the_way : ∀ front, front ≠ [] → front <+: names → front ≠ names →
    admitted (pathBelow path front) = .ok true

/-- Names lead down from a node to a file, and the path of the file is admitted, as are those of all
directories on the way. -/
structure Permitted (admitted : Text → Except CodecError Bool) (path : Text) (node : Node)
    (names : List Text) : Prop where
  down : names ≠ []
  to_file : ∃ content, node.at? names = some (.file content)
  on_the_way : ∀ front, front ≠ [] → front <+: names → admitted (pathBelow path front) = .ok true

/-- An entry of a directory is reached, and what is reached below an admitted entry. -/
theorem reached_cons_iff {name : Text} :
    Reached admitted path node (name :: names) ↔ ∃ inner, node.entries.lookup name = some inner ∧
      (names = [] ∨ admitted (joinPath path name) = .ok true ∧
        Reached admitted (joinPath path name) inner names) := by
  constructor
  · rintro ⟨-, hthere, hway⟩
    obtain ⟨last, hlast⟩ := Option.isSome_iff_exists.mp hthere
    rw [Node.at?_cons] at hlast
    obtain ⟨inner, hinner, hlast⟩ := Option.bind_eq_some_iff.mp hlast
    refine ⟨inner, hinner, ?_⟩
    by_cases hnames : names = []
    · exact Or.inl hnames
    · refine Or.inr ⟨hway [name] (List.cons_ne_nil _ _) (by simp) (by simpa using Ne.symm hnames),
        hnames, by rw [hlast]; rfl, fun front _ hfront hne => ?_⟩
      rw [← pathBelow_cons]
      exact hway (name :: front) (List.cons_ne_nil _ _) (List.cons_prefix_cons.mpr ⟨rfl, hfront⟩)
        (by simpa using hne)
  · rintro ⟨inner, hinner, hrest⟩
    have hat : node.at? (name :: names) = inner.at? names := by
      rw [Node.at?_cons, hinner, Option.bind_some]
    refine ⟨List.cons_ne_nil _ _, ?_, ?_⟩
    · rw [hat]
      rcases hrest with rfl | ⟨-, hrest⟩
      · rfl
      · exact hrest.there
    · intro front hne hfront hproper
      cases front with
      | nil => exact absurd rfl hne
      | cons first front =>
        obtain ⟨rfl, htail⟩ := List.cons_prefix_cons.mp hfront
        rcases hrest with rfl | ⟨hname, hrest⟩
        · rw [List.prefix_nil.mp htail] at hproper
          exact absurd rfl hproper
        · rw [pathBelow_cons]
          by_cases hfirst : front = []
          · rw [hfirst]
            exact hname
          · exact hrest.on_the_way front hfirst htail fun heq => hproper (by rw [heq])

/-- Nothing is below a file. -/
theorem not_reached_file {content : Bytes} : ¬Reached admitted path (.file content) names := by
  intro h
  cases names with
  | nil => exact h.down rfl
  | cons name names =>
    obtain ⟨inner, hinner, -⟩ := reached_cons_iff.mp h
    simp [Node.entries] at hinner

theorem permitted_iff : Permitted admitted path node names ↔ Reached admitted path node names ∧
    (∃ content, node.at? names = some (.file content)) ∧
      admitted (pathBelow path names) = .ok true := by
  constructor
  · rintro ⟨hdown, ⟨content, hfile⟩, hway⟩
    exact ⟨⟨hdown, by rw [hfile]; rfl, fun front hne hfront _ => hway front hne hfront⟩,
      ⟨content, hfile⟩, hway names hdown List.prefix_rfl⟩
  · rintro ⟨hreached, hfile, hlast⟩
    refine ⟨hreached.down, hfile, fun front hne hfront => ?_⟩
    by_cases heq : front = names
    · rwa [heq]
    · exact hreached.on_the_way front hne hfront heq

/-- A permitted file is an admitted one in a directory, or permitted below an admitted entry of it. -/
theorem permitted_cons_iff {name : Text} :
    Permitted admitted path node (name :: names) ↔
      ∃ inner, node.entries.lookup name = some inner ∧ admitted (joinPath path name) = .ok true ∧
        (names = [] ∧ inner.isDirectory = false ∨
          Permitted admitted (joinPath path name) inner names) := by
  rw [permitted_iff, reached_cons_iff]
  constructor
  · rintro ⟨⟨inner, hinner, hrest⟩, ⟨content, hfile⟩, hlast⟩
    rw [Node.at?_cons, hinner, Option.bind_some] at hfile
    rcases hrest with rfl | ⟨hyes, hreached⟩
    · rw [Node.at?_nil] at hfile
      exact ⟨inner, hinner, hlast, Or.inl ⟨rfl, by rw [Option.some.inj hfile]; rfl⟩⟩
    · exact ⟨inner, hinner, hyes, Or.inr (permitted_iff.mpr ⟨hreached, ⟨content, hfile⟩, hlast⟩)⟩
  · rintro ⟨inner, hinner, hyes, ⟨rfl, hkind⟩ | hrest⟩
    · cases inner with
      | file content =>
        exact ⟨⟨_, hinner, Or.inl rfl⟩, ⟨content, by rw [Node.at?_cons, hinner]; rfl⟩, hyes⟩
      | directory entries => simp [Node.isDirectory] at hkind
    · obtain ⟨hreached, ⟨content, hfile⟩, hlast⟩ := permitted_iff.mp hrest
      refine ⟨⟨inner, hinner, Or.inr ⟨hyes, hreached⟩⟩, ⟨content, ?_⟩, hlast⟩
      rw [Node.at?_cons, hinner, Option.bind_some, hfile]

theorem not_permitted_file {content : Bytes} : ¬Permitted admitted path (.file content) names :=
  fun h => not_reached_file (permitted_iff.mp h).1

/-- A list of files has the paths of given places, each once. -/
def Enumerates (path : Text) (at_place : List Text → Prop) (files : List Text) : Prop :=
  ∃ places : List (List Text), places.Nodup ∧ (∀ names, names ∈ places ↔ at_place names) ∧
    files = places.map (pathBelow path)

theorem Enumerates.append {p q : List Text → Prop} {files more : List Text}
    (hp : Enumerates path p files) (hq : Enumerates path q more)
    (hdisjoint : ∀ names, p names → ¬q names) :
    Enumerates path (fun names => p names ∨ q names) (files ++ more) := by
  obtain ⟨places, hnodup, hmem, rfl⟩ := hp
  obtain ⟨places', hnodup', hmem', rfl⟩ := hq
  refine ⟨places ++ places', ?_, ?_, List.map_append.symm⟩
  · rw [List.nodup_append]
    refine ⟨hnodup, hnodup', ?_⟩
    rintro names hnames _ hnames' rfl
    exact hdisjoint names ((hmem names).mp hnames) ((hmem' names).mp hnames')
  · intro names
    rw [List.mem_append, hmem, hmem']

theorem Enumerates.congr {p q : List Text → Prop} {files : List Text} (h : Enumerates path p files)
    (hiff : ∀ names, p names ↔ q names) : Enumerates path q files := by
  obtain ⟨places, hnodup, hmem, hfiles⟩ := h
  exact ⟨places, hnodup, fun names => (hmem names).trans (hiff names), hfiles⟩

/-- Files below an entry are reached through its name. -/
theorem Enumerates.cons {name : Text} {p : List Text → Prop} {files : List Text}
    (h : Enumerates (joinPath path name) p files) :
    Enumerates path (fun names => ∃ rest, names = name :: rest ∧ p rest) files := by
  obtain ⟨places, hnodup, hmem, rfl⟩ := h
  refine ⟨places.map (name :: ·), hnodup.map List.cons_injective, ?_, ?_⟩
  · intro names
    simp only [List.mem_map, hmem, eq_comm, and_comm]
  · rw [List.map_map]
    rfl

theorem Enumerates.nil {p : List Text → Prop} (h : ∀ names, ¬p names) : Enumerates path p [] :=
  ⟨[], List.nodup_nil, by simpa using h, rfl⟩

theorem Enumerates.singleton {p : List Text → Prop} (names : List Text)
    (h : ∀ other, p other ↔ other = names) : Enumerates path p [pathBelow path names] :=
  ⟨[names], List.nodup_singleton names, by simp [h], rfl⟩

/-- The admitted files of a directory itself. -/
theorem enumerates_filesAmong (hnodup : (entries.map (·.1)).Nodup)
    (h : filesAmong admitted path entries = .ok files) :
    Enumerates path (fun names => ∃ entry ∈ entries, names = [entry.1] ∧
      entry.2.isDirectory = false ∧ admitted (joinPath path entry.1) = .ok true) files := by
  induction entries generalizing files with
  | nil =>
    obtain rfl : [] = files := Except.ok.inj h
    exact .nil (by simp)
  | cons entry rest ih =>
    obtain ⟨name, node⟩ := entry
    rw [List.map_cons, List.nodup_cons] at hnodup
    obtain ⟨found, hfound, others, hothers, rfl⟩ := filesAmong_cons_eq_ok.mp h
    have hrest := ih hnodup.2 hothers
    have hhere : Enumerates path (fun names => names = [name] ∧ node.isDirectory = false ∧
        admitted (joinPath path name) = .ok true) (if found then [joinPath path name] else []) := by
      cases hkind : node.isDirectory with
      | true =>
        obtain rfl : false = found := by simpa [hkind] using hfound
        exact .nil (by simp)
      | false =>
        rw [hkind, if_neg Bool.false_ne_true] at hfound
        cases found with
        | true => exact .singleton [name] (by simp [hfound])
        | false => exact .nil (by simp [hfound])
    have hsplit : (if found then joinPath path name :: others else others) =
        (if found then [joinPath path name] else []) ++ others := by
      cases found <;> rfl
    rw [hsplit]
    refine (hhere.append hrest ?_).congr ?_
    · -- No other entry has this name.
      rintro names ⟨rfl, -⟩ ⟨entry, hentry, hnames, -⟩
      exact hnodup.1 (List.mem_map.mpr ⟨entry, hentry, (List.cons.inj hnames).1.symm⟩)
    · intro names
      simp only [List.mem_cons, exists_eq_or_imp]

/-- The files below the directories in a directory, from what is found below each of them. -/
theorem enumerates_filesDeeper (hnodup : (entries.map (·.1)).Nodup)
    (hbelow : ∀ entry ∈ entries, ∀ (path : Text) (files : List Text),
      filesBelow admitted path entry.2 = .ok files →
        Enumerates path (Permitted admitted path entry.2) files)
    (h : filesDeeper admitted path entries = .ok files) :
    Enumerates path (fun names => ∃ entry ∈ entries, ∃ rest, names = entry.1 :: rest ∧
      admitted (joinPath path entry.1) = .ok true ∧
        Permitted admitted (joinPath path entry.1) entry.2 rest) files := by
  induction entries generalizing files with
  | nil =>
    rw [filesDeeper] at h
    obtain rfl : [] = files := Except.ok.inj h
    exact .nil (by simp)
  | cons entry rest ih =>
    obtain ⟨name, node⟩ := entry
    rw [List.map_cons, List.nodup_cons] at hnodup
    rw [List.forall_mem_cons] at hbelow
    obtain ⟨found, hentered, others, hothers, rfl⟩ := filesDeeper_cons_eq_ok.mp h
    have hrest := ih hnodup.2 hbelow.2 hothers
    have hhere : Enumerates path (fun names => ∃ rest, names = name :: rest ∧
        admitted (joinPath path name) = .ok true ∧
          Permitted admitted (joinPath path name) node rest) found := by
      rcases hentered with ⟨hkind, rfl⟩ | ⟨-, answer, hanswer, hfound⟩
      · refine .nil ?_
        rintro names ⟨rest, -, -, hpermitted⟩
        cases node with
        | file content => exact not_permitted_file hpermitted
        | directory entries => simp [Node.isDirectory] at hkind
      · cases answer with
        | false =>
          obtain rfl : [] = found := Except.ok.inj hfound
          exact .nil (by simp [hanswer])
        | true => exact (hbelow.1 _ _ hfound).cons.congr (by simp [hanswer])
    refine (hhere.append hrest ?_).congr ?_
    · -- No other entry has this name.
      rintro names ⟨rest, rfl, -⟩ ⟨entry, hentry, rest', hnames, -⟩
      exact hnodup.1 (List.mem_map.mpr ⟨entry, hentry, (List.cons.inj hnames).1.symm⟩)
    · intro names
      simp only [List.mem_cons, exists_eq_or_imp]

/-- The files that are found below a node are the permitted ones. -/
theorem enumerates_filesBelow (hlawful : node.Lawful)
    (h : filesBelow admitted path node = .ok files) :
    Enumerates path (Permitted admitted path node) files := by
  induction hlawful generalizing path files with
  | file content =>
    rw [filesBelow] at h
    obtain rfl : [] = files := Except.ok.inj h
    exact .nil fun _ => not_permitted_file
  | directory entries nodup named inner ih =>
    obtain ⟨here, hhere, deeper, hdeeper, rfl⟩ := filesBelow_directory_eq_ok.mp h
    have hamong := enumerates_filesAmong nodup hhere
    have hbelow := enumerates_filesDeeper nodup (fun entry hentry path files hfound =>
      ih entry hentry hfound) hdeeper
    refine (hamong.append hbelow ?_).congr ?_
    · -- A file in the directory itself is one name away, any other is further down.
      rintro names ⟨entry, -, rfl, -⟩ ⟨entry', -, rest, hnames, -, hrest⟩
      exact hrest.down (List.cons.inj hnames).2.symm
    · intro names
      cases names with
      | nil =>
        refine iff_of_false ?_ fun h => h.down rfl
        rintro (⟨entry, -, h, -⟩ | ⟨entry, -, rest, h, -⟩) <;> cases h
      | cons name names =>
        rw [permitted_cons_iff]
        constructor
        · rintro (⟨⟨_, node⟩, hentry, hnames, hfile, hadmitted⟩ |
            ⟨⟨_, node⟩, hentry, rest, hnames, hadmitted, hrest⟩)
          · obtain ⟨rfl, rfl⟩ := List.cons.inj hnames
            exact ⟨node, Node.lookup_of_mem nodup hentry, hadmitted, Or.inl ⟨rfl, hfile⟩⟩
          · obtain ⟨rfl, rfl⟩ := List.cons.inj hnames
            exact ⟨node, Node.lookup_of_mem nodup hentry, hadmitted, Or.inr hrest⟩
        · rintro ⟨node, hnode, hadmitted, ⟨rfl, hfile⟩ | hrest⟩
          · exact Or.inl ⟨(name, node), Node.mem_of_lookup hnode, rfl, hfile, hadmitted⟩
          · exact Or.inr ⟨(name, node), Node.mem_of_lookup hnode, names, rfl, hadmitted, hrest⟩

/-- A search that ends has asked about every file among the entries. -/
theorem exists_answer_of_filesAmong (h : filesAmong admitted path entries = .ok files) :
    ∀ entry ∈ entries, entry.2.isDirectory = false →
      ∃ answer, admitted (joinPath path entry.1) = .ok answer := by
  induction entries generalizing files with
  | nil => simp
  | cons entry rest ih =>
    obtain ⟨found, hfound, others, hothers, rfl⟩ := filesAmong_cons_eq_ok.mp h
    rw [List.forall_mem_cons]
    refine ⟨fun hkind => ⟨found, ?_⟩, ih hothers⟩
    rwa [hkind, if_neg Bool.false_ne_true] at hfound

theorem exists_entered_of_filesDeeper (h : filesDeeper admitted path entries = .ok files) :
    ∀ entry ∈ entries, ∃ found, Entered admitted (joinPath path entry.1) entry.2 found := by
  induction entries generalizing files with
  | nil => simp
  | cons entry rest ih =>
    obtain ⟨found, hfound, others, hothers, rfl⟩ := filesDeeper_cons_eq_ok.mp h
    rw [List.forall_mem_cons]
    exact ⟨⟨found, hfound⟩, ih hothers⟩

/-- A search that ends has had an answer for all that it has reached. -/
theorem Reached.exists_answer (hreached : Reached admitted path node names)
    (hlawful : node.Lawful) (h : filesBelow admitted path node = .ok files) :
    ∃ answer, admitted (pathBelow path names) = .ok answer := by
  induction hlawful generalizing path names files with
  | file content => exact absurd hreached not_reached_file
  | directory entries nodup named inner ih =>
    obtain ⟨here, hhere, deeper, hdeeper, -⟩ := filesBelow_directory_eq_ok.mp h
    cases names with
    | nil => exact absurd rfl hreached.down
    | cons name names =>
      obtain ⟨node, hnode, hrest⟩ := reached_cons_iff.mp hreached
      have hentry := Node.mem_of_lookup hnode
      obtain ⟨found, hfound⟩ := exists_entered_of_filesDeeper hdeeper _ hentry
      rcases hrest with rfl | ⟨hyes, hrest⟩
      · rcases hfound with ⟨hkind, -⟩ | ⟨-, answer, hanswer, -⟩
        · exact exists_answer_of_filesAmong hhere _ hentry hkind
        · exact ⟨answer, hanswer⟩
      · rw [pathBelow_cons]
        rcases hfound with ⟨hkind, -⟩ | ⟨-, answer, hanswer, hfound⟩
        · cases node with
          | file content => exact absurd hrest not_reached_file
          | directory entries => simp [Node.isDirectory] at hkind
        · obtain rfl : true = answer := Except.ok.inj (hyes.symm.trans hanswer)
          exact ih _ hentry hrest hfound

/-- A search that fails does so at a path that it has reached. -/
theorem exists_reached_of_error (hlawful : node.Lawful)
    (h : filesBelow admitted path node = .error e) :
    ∃ names, Reached admitted path node names ∧ admitted (pathBelow path names) = .error e := by
  induction hlawful generalizing path with
  | file content =>
    rw [filesBelow] at h
    cases h
  | directory entries nodup named inner ih =>
    rw [filesBelow, bind_eq_error] at h
    have hone (entry : Text × Node) (hentry : entry ∈ entries) :
        Reached admitted path (.directory entries) [entry.1] :=
      reached_cons_iff.mpr ⟨entry.2, Node.lookup_of_mem nodup hentry, Or.inl rfl⟩
    rcases h with h | ⟨here, -, h⟩
    · obtain ⟨entry, hentry, -, herror⟩ := exists_of_filesAmong_eq_error h
      exact ⟨[entry.1], hone entry hentry, herror⟩
    · obtain h | ⟨deeper, -, h⟩ := bind_eq_error.mp h
      · obtain ⟨entry, hentry, herror | ⟨hyes, herror⟩⟩ := exists_of_filesDeeper_eq_error h
        · exact ⟨[entry.1], hone entry hentry, herror⟩
        · obtain ⟨names, hreached, herror⟩ := ih entry hentry herror
          exact ⟨entry.1 :: names, reached_cons_iff.mpr ⟨entry.2, Node.lookup_of_mem nodup hentry,
            Or.inr ⟨hyes, hreached⟩⟩, herror⟩
      · cases h

end Places

end Files

end Pruner
