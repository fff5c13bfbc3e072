import Pruner.Files.Tree
import Mathlib.Data.List.Basic

namespace Pruner

namespace Node

/-- A name that an entry of a directory can have. -/
def IsEntryName (name : Text) : Prop :=
  name ≠ [] ∧ name ≠ ['.'] ∧ name ≠ ['.', '.'] ∧ '/' ∉ name

/-- Nodes as file systems have them: the entries of a directory have different names, and each name
is one that a path can mention. -/
inductive Lawful : Node → Prop
  | file (content : Bytes) : Lawful (.file content)
  | directory (entries : List (Text × Node)) (nodup : (entries.map (·.1)).Nodup)
      (named : ∀ entry ∈ entries, IsEntryName entry.1)
      (inner : ∀ entry ∈ entries, Lawful entry.2) : Lawful (.directory entries)

theorem at?_nil (node : Node) : node.at? [] = some node := rfl

theorem at?_cons (node : Node) (name : Text) (names : List Text) :
    node.at? (name :: names) = (node.entries.lookup name).bind (·.at? names) := rfl

theorem at?_append (node : Node) (names more : List Text) :
    node.at? (names ++ more) = (node.at? names).bind (·.at? more) := by
  induction names generalizing node with
  | nil => rfl
  | cons name names ih =>
    rw [List.cons_append, at?_cons, at?_cons]
    cases node.entries.lookup name with
    | none => rfl
    | some inner => exact ih inner

theorem lookup_setEntry_self (name : Text) (node : Node) (entries : List (Text × Node)) :
    (setEntry name node entries).lookup name = some node := by
  induction entries with
  | nil => simp [setEntry]
  | cons entry rest ih =>
    obtain ⟨n, old⟩ := entry
    rw [setEntry]
    split
    · simp
    · rename_i hne
      have hne' : (name == n) = false := by
        rw [beq_eq_false_iff_ne]
        exact fun h => hne (by simp [h])
      rw [List.lookup_cons, hne']
      exact ih

theorem lookup_setEntry_of_ne {name other : Text} (h : other ≠ name) (node : Node)
    (entries : List (Text × Node)) :
    (setEntry name node entries).lookup other = entries.lookup other := by
  have hother : (other == name) = false := by simpa using h
  induction entries with
  | nil => simp [setEntry, List.lookup_cons, hother]
  | cons entry rest ih =>
    obtain ⟨n, old⟩ := entry
    rw [setEntry]
    split
    · rename_i hn
      rw [beq_iff_eq] at hn
      rw [List.lookup_cons, List.lookup_cons, hn, hother]
    · rw [List.lookup_cons, List.lookup_cons, ih]

theorem setEntry_setEntry (name : Text) (node other : Node) (entries : List (Text × Node)) :
    setEntry name node (setEntry name other entries) = setEntry name node entries := by
  induction entries with
  | nil => simp [setEntry]
  | cons entry rest ih =>
    obtain ⟨n, old⟩ := entry
    by_cases hn : n = name
    · simp [setEntry, hn]
    · simp [setEntry, hn, ih]

/-- Entries that are there already can be replaced in any order. -/
theorem setEntry_comm {name other : Text} (h : name ≠ other) (a b : Node)
    {entries : List (Text × Node)} (hname : (entries.lookup name).isSome)
    (hother : (entries.lookup other).isSome) :
    setEntry name a (setEntry other b entries) = setEntry other b (setEntry name a entries) := by
  induction entries with
  | nil => simp at hname
  | cons entry rest ih =>
    obtain ⟨n, old⟩ := entry
    by_cases hn : n = name
    · have hno : n ≠ other := hn ▸ h
      simp [setEntry, hn, h]
    · by_cases hno : n = other
      · simp [setEntry, hno, h.symm]
      · have hn' : (name == n) = false := by simpa using Ne.symm hn
        have hno' : (other == n) = false := by simpa using Ne.symm hno
        rw [List.lookup_cons, hn'] at hname
        rw [List.lookup_cons, hno'] at hother
        simp [setEntry, hn, hno, ih hname hother]

theorem map_fst_setEntry {name : Text} (node : Node) {entries : List (Text × Node)}
    (h : (entries.lookup name).isSome) :
    (setEntry name node entries).map (·.1) = entries.map (·.1) := by
  induction entries with
  | nil => simp at h
  | cons entry rest ih =>
    obtain ⟨n, old⟩ := entry
    by_cases hn : n = name
    · simp [setEntry, hn]
    · have hn' : (name == n) = false := by simpa using Ne.symm hn
      rw [List.lookup_cons, hn'] at h
      simp [setEntry, hn, ih h]

theorem mem_setEntry {name : Text} {node : Node} {entries : List (Text × Node)}
    {entry : Text × Node} (h : entry ∈ setEntry name node entries) :
    entry = (name, node) ∨ entry ∈ entries := by
  induction entries with
  | nil => exact Or.inl (by simpa [setEntry] using h)
  | cons first rest ih =>
    obtain ⟨n, old⟩ := first
    rw [setEntry] at h
    split at h
    · rcases List.mem_cons.mp h with h | h
      · exact Or.inl h
      · exact Or.inr (List.mem_cons_of_mem _ h)
    · rcases List.mem_cons.mp h with h | h
      · exact Or.inr (h ▸ List.mem_cons_self)
      · exact (ih h).imp_right (List.mem_cons_of_mem _)

theorem mem_of_lookup {name : Text} {node : Node} {entries : List (Text × Node)}
    (h : entries.lookup name = some node) : (name, node) ∈ entries := by
  obtain ⟨before, after, rfl, -⟩ := List.lookup_eq_some_iff.mp h
  exact List.mem_append_right before List.mem_cons_self

theorem lookup_of_mem {name : Text} {node : Node} {entries : List (Text × Node)}
    (hnodup : (entries.map (·.1)).Nodup) (h : (name, node) ∈ entries) :
    entries.lookup name = some node := by
  induction entries with
  | nil => simp at h
  | cons entry rest ih =>
    obtain ⟨n, old⟩ := entry
    rw [List.map_cons, List.nodup_cons] at hnodup
    rcases List.mem_cons.mp h with h | h
    · simp [(Prod.mk.inj h).1, (Prod.mk.inj h).2]
    · have hne : name ≠ n := fun heq =>
        hnodup.1 (heq ▸ List.mem_map_of_mem (f := (·.1)) h)
      have hne' : (name == n) = false := by simpa using hne
      rw [List.lookup_cons, hne']
      exact ih hnodup.2 h

/-- A node with a file below it that is not the node itself is a directory. -/
theorem exists_entry_of_at? {node inner : Node} {name : Text} {names : List Text}
    (h : node.at? (name :: names) = some inner) :
    ∃ entries next, node = .directory entries ∧ entries.lookup name = some next ∧
      next.at? names = some inner := by
  rw [at?_cons] at h
  obtain ⟨next, hnext, hinner⟩ := Option.bind_eq_some_iff.mp h
  cases node with
  | file content => simp [entries] at hnext
  | directory entries => exact ⟨entries, next, rfl, hnext, hinner⟩

theorem put_cons {new next : Node} {name : Text} {names : List Text}
    {entries : List (Text × Node)} (h : entries.lookup name = some next) :
    new.put (.directory entries) (name :: names) =
      .directory (setEntry name (new.put next names) entries) := by
  rw [put, Node.entries, h, Option.getD_some]

section PutFile

variable {node : Node} {names : List Text} {old : Bytes}

theorem at?_put_self (new node : Node) (names : List Text) :
    (new.put node names).at? names = some new := by
  induction names generalizing node with
  | nil => rfl
  | cons name names ih =>
    rw [put, at?_cons, entries, lookup_setEntry_self]
    exact ih _

/-- A file that takes the place of a file changes no kind of node. -/
theorem isDirectory_at?_put (h : node.at? names = some (.file old)) (content : Bytes)
    (place : List Text) :
    (((Node.file content).put node names).at? place).map isDirectory =
      (node.at? place).map isDirectory := by
  induction names generalizing node place with
  | nil =>
    obtain rfl : node = .file old := by simpa [at?_nil] using h
    cases place <;> rfl
  | cons name names ih =>
    obtain ⟨entries, next, rfl, hnext, hfile⟩ := exists_entry_of_at? h
    rw [put_cons hnext]
    cases place with
    | nil => rfl
    | cons first place =>
      rw [at?_cons, at?_cons]
      by_cases hfirst : first = name
      · subst hfirst
        rw [Node.entries, Node.entries, lookup_setEntry_self, hnext]
        exact ih hfile place
      · rw [Node.entries, Node.entries, lookup_setEntry_of_ne hfirst]

/-- Nothing else changes than the file and the directories that lead to it. -/
theorem at?_put_of_not_prefix (h : node.at? names = some (.file old)) (content : Bytes)
    {place : List Text} (hplace : ¬place <+: names) :
    ((Node.file content).put node names).at? place = node.at? place := by
  induction names generalizing node place with
  | nil =>
    obtain rfl : node = .file old := by simpa [at?_nil] using h
    cases place with
    | nil => exact absurd List.nil_prefix hplace
    | cons first place => rfl
  | cons name names ih =>
    obtain ⟨entries, next, rfl, hnext, hfile⟩ := exists_entry_of_at? h
    rw [put_cons hnext]
    cases place with
    | nil => exact absurd List.nil_prefix hplace
    | cons first place =>
      rw [at?_cons, at?_cons]
      by_cases hfirst : first = name
      · subst hfirst
        rw [Node.entries, Node.entries, lookup_setEntry_self, hnext]
        exact ih hfile fun hprefix => hplace (List.cons_prefix_cons.mpr ⟨rfl, hprefix⟩)
      · rw [Node.entries, Node.entries, lookup_setEntry_of_ne hfirst]

theorem put_put_comm {other : List Text} {old' : Bytes} (h : node.at? names = some (.file old))
    (hother : node.at? other = some (.file old')) (hne : names ≠ other) (a b : Bytes) :
    (Node.file a).put ((Node.file b).put node other) names =
      (Node.file b).put ((Node.file a).put node names) other := by
  induction names generalizing node other with
  | nil =>
    -- A file has nothing below it, so the two places would be the same.
    obtain rfl : node = .file old := by simpa [at?_nil] using h
    cases other with
    | nil => exact absurd rfl hne
    | cons first other => simp [at?_cons, entries] at hother
  | cons name names ih =>
    obtain ⟨entries, next, rfl, hnext, hfile⟩ := exists_entry_of_at? h
    cases other with
    | nil => simp [at?_nil] at hother
    | cons first other =>
      obtain ⟨entries', next', hentries, hnext', hfile'⟩ := exists_entry_of_at? hother
      obtain rfl := directory.inj hentries
      rw [put_cons hnext', put_cons hnext]
      by_cases hfirst : name = first
      · subst hfirst
        obtain rfl : next = next' := Option.some.inj (hnext.symm.trans hnext')
        have hrest : names ≠ other := fun heq => hne (heq ▸ rfl)
        rw [put_cons (lookup_setEntry_self _ _ _), put_cons (lookup_setEntry_self _ _ _),
          setEntry_setEntry, setEntry_setEntry, ih hfile hfile' hrest]
      · rw [put_cons ((lookup_setEntry_of_ne hfirst _ _).trans hnext),
          put_cons ((lookup_setEntry_of_ne (Ne.symm hfirst) _ _).trans hnext'),
          setEntry_comm hfirst _ _ (by simp [hnext]) (by simp [hnext'])]

theorem Lawful.put (hlawful : node.Lawful) (h : node.at? names = some (.file old))
    (content : Bytes) : ((Node.file content).put node names).Lawful := by
  induction names generalizing node with
  | nil => exact Lawful.file content
  | cons name names ih =>
    obtain ⟨entries, next, rfl, hnext, hfile⟩ := exists_entry_of_at? h
    rw [put_cons hnext]
    cases hlawful with
    | directory _ nodup named inner =>
      have hmem := mem_of_lookup hnext
      apply Lawful.directory
      · rw [map_fst_setEntry _ (by simp [hnext])]
        exact nodup
      · intro entry hentry
        rcases mem_setEntry hentry with rfl | hentry
        · exact named (name, next) hmem
        · exact named entry hentry
      · intro entry hentry
        rcases mem_setEntry hentry with rfl | hentry
        · exact ih (inner _ hmem) hfile
        · exact inner entry hentry

theorem Lawful.at? {place : List Text} {inner : Node} (hlawful : node.Lawful)
    (h : node.at? place = some inner) : inner.Lawful := by
  induction place generalizing node with
  | nil => exact Option.some.inj h ▸ hlawful
  | cons name place ih =>
    obtain ⟨entries, next, rfl, hnext, hinner⟩ := exists_entry_of_at? h
    cases hlawful with
    | directory _ _ _ hall => exact ih (hall _ (mem_of_lookup hnext)) hinner

end PutFile

end Node

namespace FileTree

/-- Whether there is something at a place, and whether it is a directory. -/
def kindAt (tree : FileTree) (place : List Text) : Option Bool :=
  (tree.root.at? place).map Node.isDirectory

/-- The next step of a path depends on the kinds of nodes alone. -/
theorem enter_congr {tree other : FileTree} (h : ∀ place, tree.kindAt place = other.kindAt place)
    (place : List Text) (part : Text) : tree.enter place part = other.enter place part := by
  have hplace := h place
  have hpart := h (place ++ [part])
  unfold kindAt at hplace hpart
  rw [Node.at?_append, Node.at?_append] at hpart
  unfold enter
  cases ht : tree.root.at? place with
  | none =>
    cases ho : other.root.at? place with
    | none => rfl
    | some node => simp [ht, ho] at hplace
  | some node =>
    cases ho : other.root.at? place with
    | none => simp [ht, ho] at hplace
    | some node' =>
      rw [ht, ho] at hplace hpart
      cases node with
      | file content =>
        cases node' with
        | file content' => rfl
        | directory entries' => simp [Node.isDirectory] at hplace
      | directory entries =>
        cases node' with
        | file content' => simp [Node.isDirectory] at hplace
        | directory entries' =>
          have hlookup : (entries.lookup part).isSome = (entries'.lookup part).isSome := by
            have := congrArg Option.isSome hpart
            simpa [Node.at?_cons, Node.at?_nil, Node.entries] using this
          dsimp only
          rw [hlookup]

/-- Where a path leads depends on the kinds of nodes alone. -/
theorem locate_congr {tree other : FileTree} (hworking : tree.working = other.working)
    (h : ∀ place, tree.kindAt place = other.kindAt place) (path : Text) :
    tree.locate path = other.locate path := by
  have henter : tree.enter = other.enter := by
    funext place part
    exact enter_congr h place part
  rw [locate, locate, hworking, henter]

theorem isDirectory_eq_of_locate {tree : FileTree} {path : Text} {place : List Text}
    (h : tree.locate path = .ok place) :
    tree.isDirectory path = (tree.kindAt place == some true) := by
  rw [isDirectory, h, kindAt]
  dsimp only
  cases tree.root.at? place with
  | none => rfl
  | some node => cases hnode : node.isDirectory <;> simp [hnode]

section WithFile

variable {tree : FileTree} {place : List Text} {old : Bytes}

theorem kindAt_withFile (h : tree.root.at? place = some (.file old)) (content : Bytes)
    (other : List Text) : (tree.withFile place content).kindAt other = tree.kindAt other :=
  Node.isDirectory_at?_put h content other

theorem locate_withFile (h : tree.root.at? place = some (.file old)) (content : Bytes)
    (path : Text) : (tree.withFile place content).locate path = tree.locate path := by
  apply locate_congr
  · rfl
  · exact kindAt_withFile h content

theorem isDirectory_withFile (h : tree.root.at? place = some (.file old)) (content : Bytes)
    (path : Text) : (tree.withFile place content).isDirectory path = tree.isDirectory path := by
  have hlocate := locate_withFile h content path
  cases hpath : tree.locate path with
  | error e => rw [isDirectory, isDirectory, hlocate, hpath]
  | ok other =>
    rw [isDirectory_eq_of_locate hpath, isDirectory_eq_of_locate (hlocate.trans hpath),
      kindAt_withFile h]

theorem at?_withFile (h : tree.root.at? place = some (.file old)) (content : Bytes)
    {other : List Text} (hother : ¬other <+: place) :
    (tree.withFile place content).root.at? other = tree.root.at? other :=
  Node.at?_put_of_not_prefix h content hother

theorem device_withFile (tree : FileTree) (place : List Text) (content : Bytes) :
    (tree.withFile place content).device = tree.device := rfl

/-- The other files are opened as before. -/
theorem openFile_withFile_of_ne (h : tree.root.at? place = some (.file old)) (content : Bytes)
    (refused? : List Text → Option AccessError) {path : Text} (hpath : tree.locate path ≠ .ok place) :
    (tree.withFile place content).openFile refused? path = tree.openFile refused? path := by
  rw [openFile, openFile, locate_withFile h]
  cases hlocate : tree.locate path with
  | error e => rfl
  | ok other =>
    simp only [bind, Except.bind]
    by_cases hprefix : other <+: place
    · -- The path leads to a directory on the way to the file.
      have hkind := kindAt_withFile h content other
      unfold kindAt at hkind
      obtain ⟨rest, rfl⟩ := hprefix
      cases rest with
      | nil => exact absurd (by rw [hlocate, List.append_nil]) hpath
      | cons name rest =>
        rw [Node.at?_append] at h
        obtain ⟨node, hnode, hfile⟩ := Option.bind_eq_some_iff.mp h
        obtain ⟨entries, next, rfl, -, -⟩ := Node.exists_entry_of_at? hfile
        rw [hnode] at hkind ⊢
        obtain ⟨node', hnode', hdirectory⟩ := Option.map_eq_some_iff.mp hkind
        rw [hnode']
        cases node' with
        | file content' => simp [Node.isDirectory] at hdirectory
        | directory entries' => rfl
    · rw [at?_withFile h content hprefix]

/-- The file itself is opened as before, and has the new content. -/
theorem openFile_withFile_self (h : tree.root.at? place = some (.file old)) (content : Bytes)
    (refused? : List Text → Option AccessError) {path : Text} (hpath : tree.locate path = .ok place) :
    (tree.withFile place content).openFile refused? path =
      (tree.openFile refused? path).map fun found => (found.1, content) := by
  have hnew : (tree.withFile place content).root.at? place = some (.file content) :=
    Node.at?_put_self ..
  rw [openFile, openFile, locate_withFile h, hpath]
  simp only [bind, Except.bind, h, hnew]
  cases refused? place <;> rfl

theorem read_withFile_of_ne (h : tree.root.at? place = some (.file old)) (content : Bytes)
    {path : Text} (hpath : tree.locate path ≠ .ok place) :
    (tree.withFile place content).read path = tree.read path := by
  rw [read, read, openFile_withFile_of_ne h content _ hpath, device_withFile]

theorem read_withFile_self (h : tree.root.at? place = some (.file old)) (content : Bytes)
    {path : Text} (hpath : tree.locate path = .ok place) :
    (tree.withFile place content).read path = (tree.read path).map fun _ => content := by
  rw [read, read, openFile_withFile_self h content _ hpath, device_withFile]
  cases tree.openFile tree.device.unreadable? path <;> rfl

theorem openForWriting_withFile (h : tree.root.at? place = some (.file old)) (content : Bytes)
    (path : Text) :
    (tree.withFile place content).openForWriting path = tree.openForWriting path := by
  rw [openForWriting, openForWriting, device_withFile]
  by_cases hpath : tree.locate path = .ok place
  · rw [openFile_withFile_self h content _ hpath]
    cases tree.openFile tree.device.unwritable? path <;> rfl
  · rw [openFile_withFile_of_ne h content _ hpath]

theorem withFile_comm {other : List Text} {old' : Bytes}
    (h : tree.root.at? place = some (.file old))
    (hother : tree.root.at? other = some (.file old')) (hne : place ≠ other) (a b : Bytes) :
    (tree.withFile other b).withFile place a = (tree.withFile place a).withFile other b := by
  unfold withFile
  dsimp only
  rw [Node.put_put_comm h hother hne]

end WithFile

section Open

variable {tree : FileTree} {refused? : List Text → Option AccessError} {path : Text}
  {place : List Text} {content : Bytes}

theorem openFile_eq_ok : tree.openFile refused? path = .ok (place, content) ↔
    tree.locate path = .ok place ∧ tree.root.at? place = some (.file content) ∧
      refused? place = none := by
  rw [openFile]
  cases tree.locate path with
  | error e => simp [bind, Except.bind]
  | ok other =>
    simp only [bind, Except.bind, Except.ok.injEq]
    constructor
    · intro h
      split at h
      · rename_i found hfound
        split at h
        · rename_i hrefused
          obtain ⟨rfl, rfl⟩ := Prod.mk.inj (Except.ok.inj h)
          exact ⟨rfl, hfound, hrefused⟩
        · cases h
      · cases h
      · cases h
    · rintro ⟨rfl, hfile, hrefused⟩
      rw [hfile]
      dsimp only
      rw [hrefused]

theorem exists_file_of_openForWriting (h : tree.openForWriting path = .ok place) :
    tree.locate path = .ok place ∧ ∃ content, tree.root.at? place = some (.file content) := by
  rw [openForWriting] at h
  cases hopen : tree.openFile tree.device.unwritable? path with
  | error e => simp [hopen, bind, Except.bind] at h
  | ok found =>
    obtain ⟨other, content⟩ := found
    rw [hopen] at h
    obtain rfl : other = place := Except.ok.inj h
    exact ⟨(openFile_eq_ok.mp hopen).1, content, (openFile_eq_ok.mp hopen).2.1⟩

end Open

end FileTree

end Pruner
