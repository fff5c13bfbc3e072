import Pruner.Proofs.Files.Below

namespace Pruner.Files

open Pruner.Text Pruner.Fix

section Names

variable {codecs : Codecs} {tree : FileTree} {recursive : Bool} {exclude : List Text}
  {name : Text} {files : List Text}

theorem exists_directory_of_isWalked (h : isWalked tree recursive name = true) :
    ∃ place entries, tree.locate name = .ok place ∧
      tree.root.at? place = some (.directory entries) ∧ tree.entries name = entries := by
  have hdirectory := (Bool.and_eq_true_iff.mp h).2
  unfold FileTree.isDirectory at hdirectory
  unfold FileTree.entries
  cases hname : tree.locate name with
  | error e => simp [hname] at hdirectory
  | ok place =>
    rw [hname] at hdirectory
    dsimp only at hdirectory ⊢
    cases hnode : tree.root.at? place with
    | none => simp [hnode] at hdirectory
    | some node =>
      cases node with
      | file content => simp [hnode, Node.isDirectory] at hdirectory
      | directory entries => exact ⟨place, entries, rfl, hnode, rfl⟩

/-- The files that a walked name stands for have their places below it, each its own. -/
theorem exists_places_of_filesOf (hlawful : tree.root.Lawful)
    (hname : isWalked tree recursive name = true)
    (h : filesOf codecs tree exclude name = .ok files) :
    ∃ place entries, tree.locate name = .ok place ∧
      tree.root.at? place = some (.directory entries) ∧
      Enumerates name (Permitted (isAdmitted codecs tree exclude) name (.directory entries)) files ∧
      ∀ names inner, (Node.directory entries).at? names = some inner →
        tree.locate (pathBelow name names) = .ok (place ++ names) := by
  obtain ⟨place, entries, hplace, hnode, hentries⟩ := exists_directory_of_isWalked hname
  rw [filesOf, hentries] at h
  exact ⟨place, entries, hplace, hnode, enumerates_filesBelow (hlawful.at? hnode) h,
    fun names inner hinner => locate_pathBelow hlawful hplace hnode hinner⟩

theorem exists_place_of_mem_filesOf (hlawful : tree.root.Lawful)
    (hname : isWalked tree recursive name = true)
    (h : filesOf codecs tree exclude name = .ok files) {file : Text} (hfile : file ∈ files) :
    ∃ place rest content, tree.locate name = .ok place ∧ tree.locate file = .ok (place ++ rest) ∧
      tree.root.at? (place ++ rest) = some (.file content) := by
  obtain ⟨place, entries, hplace, hnode, ⟨places, -, hmem, rfl⟩, hlocate⟩ :=
    exists_places_of_filesOf hlawful hname h
  obtain ⟨names, hnames, rfl⟩ := List.mem_map.mp hfile
  obtain ⟨content, hcontent⟩ := ((hmem names).mp hnames).to_file
  refine ⟨place, names, content, hplace, hlocate names _ hcontent, ?_⟩
  rw [Node.at?_append, hnode, Option.bind_some, hcontent]

theorem pairwise_filesOf (hlawful : tree.root.Lawful)
    (hname : isWalked tree recursive name = true)
    (h : filesOf codecs tree exclude name = .ok files) :
    files.Pairwise fun a b => tree.locate a ≠ tree.locate b := by
  obtain ⟨place, entries, -, -, ⟨places, hnodup, hmem, rfl⟩, hlocate⟩ :=
    exists_places_of_filesOf hlawful hname h
  have hplace (names : List Text) (hnames : names ∈ places) :
      tree.locate (pathBelow name names) = .ok (place ++ names) := by
    obtain ⟨content, hcontent⟩ := ((hmem names).mp hnames).to_file
    exact hlocate names _ hcontent
  rw [List.pairwise_map]
  apply hnodup.imp_of_mem
  intro a b ha hb hne hsame
  rw [hplace a ha, hplace b hb] at hsame
  exact hne (List.append_cancel_left (Except.ok.inj hsame))

/-- The files below a name, as far as they can be found. -/
def foundBelow (codecs : Codecs) (tree : FileTree) (exclude : List Text) (name : Text) : List Text :=
  (filesOf codecs tree exclude name).toOption.getD []

theorem foundBelow_of_ok (h : filesOf codecs tree exclude name = .ok files) :
    foundBelow codecs tree exclude name = files := by
  rw [foundBelow, h]
  rfl

/-- The search below each walked name comes to an end. -/
def Searchable (codecs : Codecs) (tree : FileTree) (recursive : Bool) (exclude names : List Text) :
    Prop :=
  ∀ name ∈ names, isWalked tree recursive name = true →
    filesOf codecs tree exclude name = .ok (foundBelow codecs tree exclude name)

/-- The files that names stand for: the names that stand for themselves, files found before, and
the files that are found below the other names. -/
def visited (codecs : Codecs) (tree : FileTree) (recursive : Bool) (exclude found names : List Text) :
    List Text :=
  names.filter (!isWalked tree recursive ·) ++
    (found ++ (names.filter (isWalked tree recursive)).flatMap (foundBelow codecs tree exclude))

theorem visited_nil (found : List Text) :
    visited codecs tree recursive exclude found [] = found := by
  simp [visited]

theorem visited_cons_of_walked (h : isWalked tree recursive name = true) (found names : List Text) :
    visited codecs tree recursive exclude found (name :: names) =
      visited codecs tree recursive exclude (found ++ foundBelow codecs tree exclude name) names := by
  simp [visited, h]

theorem visited_cons_of_not (h : isWalked tree recursive name = false) (found names : List Text) :
    visited codecs tree recursive exclude found (name :: names) =
      name :: visited codecs tree recursive exclude found names := by
  simp [visited, h]

/-- Files are collected one after the other. -/
theorem foldlM_concat (files found : List Text) :
    files.foldlM (fun found name => (.ok (found ++ [name]) : Except CodecError (List Text))) found =
      .ok (found ++ files) := by
  induction files generalizing found with
  | nil => rw [List.append_nil]; rfl
  | cons file files ih =>
    rw [List.foldlM_cons]
    change files.foldlM _ (found ++ [file]) = _
    rw [ih, List.append_assoc, List.singleton_append]

/-- Names are visited one after the other, if each directory is found as it is in one tree. What
makes sure of that must hold at the start, and must not be lost by a visit. -/
theorem visitNames_eq_ok {ε σ : Type} {walked : σ → Text → Bool}
    {look : σ → Text → Except ε (List Text)} {visit : σ → Text → Except ε σ}
    {P : σ → List Text → Prop}
    (hwalked : ∀ state name names, P state (name :: names) →
      walked state name = isWalked tree recursive name)
    (hlook : ∀ state name names, P state (name :: names) → isWalked tree recursive name = true →
      ∀ files, look state name = .ok files ↔ filesOf codecs tree exclude name = .ok files)
    (hskip : ∀ state name names, P state (name :: names) → P state names)
    (hvisit : ∀ state name names next, P state (name :: names) → visit state name = .ok next →
      P next names)
    {state last : σ} {names : List Text} (h : P state names) (found : List Text) :
    visitNames walked look visit found state names = .ok last ↔
      Searchable codecs tree recursive exclude names ∧
        (visited codecs tree recursive exclude found names).foldlM visit state = .ok last := by
  induction names generalizing found state with
  | nil =>
    rw [visitNames, visited_nil]
    simp [Searchable]
  | cons name names ih =>
    rw [visitNames, hwalked state name names h, Searchable, List.forall_mem_cons]
    cases hname : isWalked tree recursive name with
    | true =>
      rw [if_pos rfl, visited_cons_of_walked hname, bind_eq_ok]
      simp only [hlook state name names h hname, ih (hskip state name names h)]
      constructor
      · rintro ⟨files, hfiles, hsearch, hfold⟩
        have hbelow := foundBelow_of_ok hfiles
        exact ⟨⟨fun _ => hbelow ▸ hfiles, hsearch⟩, hbelow ▸ hfold⟩
      · rintro ⟨⟨hfiles, hsearch⟩, hfold⟩
        exact ⟨_, hfiles trivial, hsearch, hfold⟩
    | false =>
      rw [if_neg Bool.false_ne_true, visited_cons_of_not hname, List.foldlM_cons, bind_eq_ok,
        bind_eq_ok, ← exists_and_left]
      apply exists_congr
      intro next
      rw [and_left_comm]
      apply and_congr_right
      intro hnext
      rw [ih (hvisit state name names next h hnext)]
      simp [Searchable]

/-- The files to work on, if every search comes to an end. -/
theorem find_eq_ok_iff {names : List Text} :
    find codecs tree recursive exclude names = .ok files ↔
      Searchable codecs tree recursive exclude names ∧
        visited codecs tree recursive exclude [] names = files := by
  have hvisit : find codecs tree recursive exclude names = .ok files ↔ _ :=
    visitNames_eq_ok (P := fun _ _ => True) (fun _ _ _ _ => rfl) (fun _ _ _ _ _ _ => Iff.rfl)
      (fun _ _ _ _ => trivial) (fun _ _ _ _ _ _ => trivial) trivial []
  rw [hvisit, foldlM_concat, Except.ok.injEq, List.nil_append]

/-- The search fails as the search below one of the names. -/
theorem exists_of_find_eq_error {names : List Text} {e : CodecError}
    (h : find codecs tree recursive exclude names = .error e) :
    ∃ name ∈ names, isWalked tree recursive name = true ∧
      filesOf codecs tree exclude name = .error e := by
  have hvisit : ∀ found state : List Text,
      visitNames (fun _ => isWalked tree recursive) (fun _ => filesOf codecs tree exclude)
        (fun found name => .ok (found ++ [name])) found state names = .error e →
      ∃ name ∈ names, isWalked tree recursive name = true ∧
        filesOf codecs tree exclude name = .error e := by
    clear h
    induction names with
    | nil =>
      intro found state h
      rw [visitNames, foldlM_concat] at h
      cases h
    | cons name names ih =>
      intro found state h
      rw [visitNames] at h
      rw [List.exists_mem_cons_iff]
      cases hname : isWalked tree recursive name with
      | true =>
        rw [hname, if_pos rfl] at h
        rcases bind_eq_error.mp h with h | ⟨more, -, h⟩
        · exact Or.inl ⟨rfl, h⟩
        · exact Or.inr (ih _ _ h)
      | false =>
        rw [hname, if_neg Bool.false_ne_true] at h
        exact Or.inr (ih _ _ h)
  exact hvisit [] [] h

end Names

section WithFile

variable {codecs : Codecs} {tree : FileTree} {path : Text} {place : List Text} {old : Bytes}

/-- What is answered for a path depends on its own file alone. -/
theorem isAdmitted_withFile (h : tree.root.at? place = some (.file old)) (content : Bytes)
    (exclude : List Text) (hpath : tree.locate path ≠ .ok place) :
    isAdmitted codecs (tree.withFile place content) exclude path =
      isAdmitted codecs tree exclude path := by
  unfold isAdmitted isSource
  rw [FileTree.isDirectory_withFile h, FileTree.read_withFile_of_ne h content hpath]

theorem isWalked_withFile (h : tree.root.at? place = some (.file old)) (content : Bytes)
    (recursive : Bool) (name : Text) :
    isWalked (tree.withFile place content) recursive name = isWalked tree recursive name := by
  unfold isWalked
  rw [FileTree.isDirectory_withFile h]

/-- What a directory stands for does not depend on files outside of it. -/
theorem filesOf_withFile (hlawful : tree.root.Lawful) (h : tree.root.at? place = some (.file old))
    (content : Bytes) (exclude : List Text) {recursive : Bool} {name : Text}
    (hwalked : isWalked tree recursive name = true)
    (houtside : ∀ inner, tree.locate name = .ok inner → ¬inner <+: place) :
    filesOf codecs (tree.withFile place content) exclude name = filesOf codecs tree exclude name := by
  obtain ⟨inner, entries, hname, hnode, hentries⟩ := exists_directory_of_isWalked hwalked
  have hnot := houtside inner hname
  have hentries' : (tree.withFile place content).entries name = entries := by
    rw [FileTree.entries, FileTree.locate_withFile h, hname]
    dsimp only
    rw [FileTree.at?_withFile h content hnot, hnode]
    rfl
  unfold filesOf
  rw [hentries, hentries']
  apply filesBelow_congr (hlawful.at? hnode)
  intro names _ hthere
  obtain ⟨found, hfound⟩ := Option.isSome_iff_exists.mp hthere
  apply isAdmitted_withFile h
  rw [locate_pathBelow hlawful hname hnode hfound]
  intro hsame
  exact hnot (Except.ok.inj hsame ▸ List.prefix_append inner names)

end WithFile

end Pruner.Files
