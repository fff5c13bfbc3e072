import Pruner.Proofs.Rule.ImportPieces
import Pruner.StandardModule

namespace Pruner.Import

open Pruner.Text Pruner.Line Pruner.Token

/-- What follows the first word of a line. -/
def afterWord (word line : Text) : Text :=
  (trimLeft line).drop word.length

/-- A line that opens with a word and a blank after it. -/
def OpensSpaced (word line : Text) : Prop :=
  OpensWith word line ∧ (afterWord word line).head?.any isBlank = true

instance (word line : Text) : Decidable (OpensSpaced word line) :=
  inferInstanceAs (Decidable (_ ∧ _))

/-- A line that opens like an import, with a blank after the first word. -/
def IsSpacedImport (line : Text) : Prop :=
  OpensSpaced importWord line ∨ OpensSpaced fromWord line

instance (line : Text) : Decidable (IsSpacedImport line) :=
  inferInstanceAs (Decidable (_ ∨ _))

/-- The package that a text names first: its first word up to a point. -/
def root (t : Text) : Text :=
  ((words t).headD []).takeWhile (· != '.')

/-- A text that names none of the given packages. -/
def isForeign (known : List Text) (t : Text) : Bool :=
  !known.contains (root t)

/-- The clauses of a line that opens with `import`, without those that are blank. -/
def clauses (line : Text) : List Text :=
  ((commaPieces (afterWord importWord line)).map trim).filter (!·.isEmpty)

/-- The clauses of an `import` line that name none of the given packages. -/
def foreignClauses (known : List Text) (line : Text) : List Text :=
  if OpensWith importWord line then (clauses line).filter (isForeign known) else []

/-- Of the names that have the word `import` in them, the part up to that word is known. -/
def ImportClosed (names known : List Text) : Prop :=
  ∀ name ∈ names, ∀ cut ∈ cutAtWord? importWord false name, cut.1 ++ importWord ∈ known

/-- A `from` import of none of the given packages. -/
def isForeignFrom (known : List Text) (line : Text) : Bool :=
  decide (OpensWith fromWord line) && isForeign known (afterWord fromWord line)

section

variable {word a rest line : Text}

theorem afterWord_append (ha : ∀ c ∈ a, isBlank c = true) (hne : word ≠ [])
    (hword : ∀ c ∈ word, isBlank c = false) : afterWord word (a ++ word ++ rest) = rest := by
  have hhead : ∀ c ∈ (word ++ rest).head?, isBlank c = false := by
    intro c hc
    rw [List.head?_append_of_ne_nil _ hne] at hc
    exact hword c (List.mem_of_head? hc)
  rw [afterWord, List.append_assoc, trimLeft_append_of_blank ha, trimLeft_eq_self hhead,
    List.drop_left]

theorem afterWord_import (ha : ∀ c ∈ a, isBlank c = true) :
    afterWord importWord (a ++ importWord ++ rest) = rest :=
  afterWord_append ha (by decide) fun _ => isBlank_eq_false_of_all (by decide)

theorem afterWord_from (ha : ∀ c ∈ a, isBlank c = true) :
    afterWord fromWord (a ++ fromWord ++ rest) = rest :=
  afterWord_append ha (by decide) fun _ => isBlank_eq_false_of_all (by decide)

theorem root_cons_blank {c : Char} (hc : isBlank c = true) (t : Text) : root (c :: t) = root t := by
  rw [root, words_cons_blank hc, root]

theorem root_word_append (ha : ∀ c ∈ a, isBlank c = true) (hne : word ≠ [])
    (hword : ∀ c ∈ word, isBlank c = false) (hrest : ∀ c ∈ rest.head?, isBlank c = true) :
    root (a ++ word ++ rest) = word.takeWhile (· != '.') := by
  rw [root, words_word_append ha hne hword hrest]
  rfl

theorem root_trim (t : Text) : root (trim t) = root t := by
  rw [root, root, words_trim]

theorem OpensWith.not_from (h : OpensWith importWord line) : ¬OpensWith fromWord line := by
  intro hfrom
  have hno := h.not_isFrom
  rw [hfrom.isFrom] at hno
  contradiction

theorem not_opensWith_of_pass (h : trim line = passWord) :
    ¬OpensWith importWord line ∧ ¬OpensWith fromWord line := by
  have hletters (c : Char) (hc : isBlank c = false) (hnot : c ∉ passWord) : c ∉ line := by
    intro hmem
    apply hnot
    rw [← h]
    exact mem_trim hmem hc
  have hi : 'i' ∉ line := hletters 'i' (by decide) (by decide)
  have hf : 'f' ∉ line := hletters 'f' (by decide) (by decide)
  have himport : 'i' ∈ importWord := by decide
  have hfrom : 'f' ∈ fromWord := by decide
  constructor
  · intro hopen
    obtain ⟨a, after, -, rfl, -⟩ := hopen.split
    exact hi (List.mem_append_left _ (List.mem_append_right _ himport))
  · intro hopen
    obtain ⟨a, after, -, rfl, -⟩ := hopen.split
    exact hf (List.mem_append_left _ (List.mem_append_right _ hfrom))

theorem isForeign_eq_false {known : List Text} {t : Text} :
    isForeign known t = false ↔ root t ∈ known := by
  rw [isForeign, Bool.not_eq_false', List.contains_iff_mem]

theorem isForeignFrom_eq_false {known : List Text} : isForeignFrom known line = false ↔
    (OpensWith fromWord line → root (afterWord fromWord line) ∈ known) := by
  rw [isForeignFrom, Bool.and_eq_false_imp, decide_eq_true_iff, isForeign_eq_false]

theorem IsSpacedImport.opensImport (h : IsSpacedImport line) : OpensImport line :=
  h.imp And.left And.left

theorem foreignClauses_of_not {known : List Text} (h : ¬OpensWith importWord line) :
    foreignClauses known line = [] :=
  if_neg h

/-- The rule looks at the package after the first word. -/
theorem OpensSpaced.package_eq {found : Option Text} (h : OpensSpaced word line)
    (hword : word = importWord ∨ word = fromWord) (hfound : package line = .ok found) :
    found = some (root (afterWord word line)) := by
  obtain ⟨hopen, hspace⟩ := h
  have hsolid : word ≠ [] ∧ ∀ c ∈ word, isBlank c = false := by
    rcases hword with rfl | rfl
    · exact ⟨by decide, fun _ => isBlank_eq_false_of_all (by decide)⟩
    · exact ⟨by decide, fun _ => isBlank_eq_false_of_all (by decide)⟩
  have hstart : startsWith importWord (trimLeft line) = true ∨ isFrom line = true := by
    obtain ⟨-, after, hafter, -⟩ := startsWord_iff.mp hopen
    rcases hword with rfl | rfl
    · rw [hafter]
      exact Or.inl (by simp [startsWith])
    · exact Or.inr hopen.isFrom
  obtain ⟨a, after, ha, hline, -⟩ := hopen.split
  have hafter : afterWord word line = after := by
    rw [hline, afterWord_append ha hsolid.1 hsolid.2]
  rw [hafter] at hspace ⊢
  have hwords : words line = word :: words after := by
    rw [hline]
    apply words_word_append ha hsolid.1 hsolid.2
    intro c hc
    rw [hc] at hspace
    exact hspace
  cases hsecond : words after with
  | nil =>
    -- Without a second word the rule gives up.
    rw [package, hwords, hsecond] at hfound
    split at hfound
    · simp at hfound
    · rw [if_pos (by simpa using hstart)] at hfound
      simp at hfound
  | cons second more =>
    rw [hsecond] at hwords
    rw [package_of_words hwords hstart hfound, root, hsecond]
    rfl

theorem OpensSpaced.root_mem {found : Option Text} {known : List Text} (h : OpensSpaced word line)
    (hword : word = importWord ∨ word = fromWord) (hfound : package line = .ok found)
    (hmay : found.any known.contains = true) : root (afterWord word line) ∈ known := by
  rw [h.package_eq hword hfound] at hmay
  exact List.contains_iff_mem.mp hmay

end

section

variable {line before after : Text} {known : List Text}

/-- A clause on a line of its own is the only one there. -/
theorem foreignClauses_ownLine {x : Text} (hbefore : ∀ c ∈ before, isBlank c = true)
    (hx : ',' ∉ x) (known : List Text) :
    foreignClauses known (before ++ "import ".toList ++ trim x ++ ending line) =
      ([trim x].filter (!·.isEmpty)).filter (isForeign known) := by
  have hopen := opensWith_import hbefore (trim x ++ ending line)
  rw [← List.append_assoc] at hopen
  have hform : before ++ "import ".toList ++ trim x ++ ending line =
      before ++ importWord ++ ([' '] ++ trim x ++ ending line) := by
    simp [import_space]
  have hspace : ∀ c ∈ [' '], isBlank c = true := by
    intro c hc
    rw [List.mem_singleton.mp hc]
    decide
  have hcomma : ',' ∉ [' '] ++ trim x ++ ending line := by
    simp only [List.mem_append, not_or]
    exact ⟨⟨by decide, fun hmem => hx (mem_of_mem_trim hmem)⟩,
      not_mem_of_blank (fun _ => isBlank_of_mem_ending) (by decide)⟩
  rw [foreignClauses, if_pos hopen, clauses, hform, afterWord_import hbefore,
    commaPieces_of_not_mem hcomma, List.map_singleton,
    trim_append hspace (fun _ => isBlank_of_mem_ending) (trim_solid x)]

/-- Clauses on lines of their own are those of the line, in another order. -/
theorem foreignClauses_ownLines (hopen : OpensWith importWord line)
    (hbefore : ∀ c ∈ before, isBlank c = true)
    (hcut : cutAtWord? importWord false line = some (before, after)) (known : List Text) :
    ((ownLines line before after).flatMap (foreignClauses known)).Perm
      (foreignClauses known line) := by
  have hafter : afterWord importWord line = after := by
    rw [(cutAtWord?_eq_some hcut).1, afterWord_import hbefore]
  rw [ownLines, List.flatMap_map]
  apply ((sort_perm (commaPieces after)).flatMap_right _).trans
  have hline : foreignClauses known line = (commaPieces after).flatMap fun x =>
      ([trim x].filter (!·.isEmpty)).filter (isForeign known) := by
    rw [foreignClauses, if_pos hopen, clauses, hafter, ← List.filter_flatMap, ← List.filter_flatMap,
      ← List.map_eq_flatMap]
  rw [hline]
  apply List.Perm.of_eq
  apply List.flatMap_congr
  intro x hx
  exact foreignClauses_ownLine hbefore (comma_not_mem_piece hx) known

/-- The only clause of a line without a comma names the package after the first word. -/
theorem foreignClauses_of_known (hcomma : ',' ∉ line)
    (hknown : root (afterWord importWord line) ∈ known) : foreignClauses known line = [] := by
  rw [foreignClauses]
  split
  · have hafter : ',' ∉ afterWord importWord line := by
      intro hmem
      apply hcomma
      exact (List.dropWhile_suffix _).subset (List.mem_of_mem_drop hmem)
    rw [clauses, commaPieces_of_not_mem hafter, List.map_singleton]
    apply List.filter_eq_nil_iff.mpr
    intro x hx
    rw [List.mem_singleton.mp (List.mem_filter.mp hx).1, isForeign, root_trim, ← isForeign,
      isForeign_eq_false.mpr hknown]
    exact Bool.false_ne_true
  · rfl

theorem mem_removable {name : Text} : name ∈ StandardModule.removable ↔
    ∃ s ∈ StandardModule.packages.filter (!StandardModule.withEffects.contains ·) ++
      StandardModule.builtIn, s.toList = name := by
  rw [StandardModule.removable, List.mem_map]
  simp only [List.mem_eraseDups]

theorem exists_of_mem_removable {name : Text} (h : name ∈ StandardModule.removable) :
    ∃ s ∈ StandardModule.packages ++ StandardModule.builtIn, s.toList = name := by
  obtain ⟨s, hs, rfl⟩ := mem_removable.mp h
  refine ⟨s, ?_, rfl⟩
  rcases List.mem_append.mp hs with hs | hs
  · exact List.mem_append_left _ (List.mem_filter.mp hs).1
  · exact List.mem_append_right _ hs

/-- No package of the standard library has the word `import` in its name. -/
theorem cutAtWord?_removable {name : Text} (h : name ∈ StandardModule.removable) :
    cutAtWord? importWord false name = none := by
  have hnone : ∀ s ∈ StandardModule.packages ++ StandardModule.builtIn,
      cutAtWord? importWord false s.toList = none := by
    decide +kernel
  obtain ⟨s, hs, rfl⟩ := exists_of_mem_removable h
  exact hnone s hs

/-- Where the word `import` is found in a text: behind the first word, or inside of it. -/
theorem cut_behind_or_inside {t w : Text} {ws : List Text} (hwords : words t = w :: ws)
    (hcut : cutAtWord? importWord false t = some (before, after)) :
    (∃ a y, (∀ c ∈ a, isBlank c = true) ∧ y ≠ [] ∧ (∀ c ∈ y.head?, isBlank c = true) ∧
      before = a ++ w ++ y) ∨
    ∃ a x z, (∀ c ∈ a, isBlank c = true) ∧ before = a ++ x ∧ w = x ++ importWord ++ z ∧
      z.head?.any isWord = false ∧
      cutAtWord? importWord false (x ++ importWord ++ after) = some (x, after) := by
  obtain ⟨a, rest, rfl, ha, hne, hw, hrest, -⟩ := exists_of_words_eq_cons hwords
  have hsolid : ∀ c ∈ importWord, isBlank c = false := fun _ => isBlank_eq_false_of_all (by decide)
  have hstart : ∀ t : Text, (importWord ++ t).head? = some 'i' := by
    intro t
    rw [List.head?_append_of_ne_nil _ (by decide)]
    rfl
  rw [List.append_assoc, cutAtWord?_blanks ha isBlank_head_importWord (by decide),
    Option.map_eq_some_iff] at hcut
  obtain ⟨⟨x, after'⟩, hcut, heq⟩ := hcut
  obtain ⟨rfl, rfl⟩ := Prod.mk.inj heq
  obtain ⟨hsplit, hafter⟩ := cutAtWord?_eq_some hcut
  rw [List.append_assoc] at hsplit
  rcases List.append_eq_append_iff.mp hsplit with ⟨y, hx, hy⟩ | ⟨y, hwy, hy⟩
  · -- The first word ends before `import` starts, so there is a blank between them.
    have hyne : y ≠ [] := by
      rintro rfl
      have hblank := hrest 'i' (by rw [hy, List.nil_append, hstart]; rfl)
      simp [isBlank] at hblank
    refine Or.inl ⟨a, y, ha, hyne, ?_, by rw [hx, List.append_assoc]⟩
    intro c hc
    apply hrest
    rw [hy, List.head?_append_of_ne_nil _ hyne]
    exact hc
  · -- It starts inside of the first word, and ends there since it has no blank.
    obtain ⟨z, hyz, hz⟩ : ∃ z, y = importWord ++ z ∧ after' = z ++ rest := by
      rcases List.append_eq_append_iff.mp hy with ⟨z, hyz, hz⟩ | ⟨z, hiz, hz⟩
      · exact ⟨z, hyz, hz⟩
      · cases z with
        | nil => exact ⟨[], by simpa using hiz.symm, by simpa using hz.symm⟩
        | cons c z =>
          have hblank := hrest c (by rw [hz]; rfl)
          have hvisible := hsolid c (by rw [hiz]; simp)
          rw [hblank] at hvisible
          exact absurd hvisible.symm Bool.false_ne_true
    refine Or.inr ⟨a, x, z, ha, rfl, by rw [hwy, hyz, List.append_assoc], ?_, ?_⟩
    · cases z with
      | nil => rfl
      | cons c z =>
        rw [hz] at hafter
        exact hafter
    · exact cutAtWord?_replace (by decide) hcut hafter

/-- If a known package has the word `import` in its name, the package that ends with that word is
known as well. -/
theorem package_up_to_import_mem {x z : Text} (hclosed : ImportClosed known known)
    (hcut : cutAtWord? importWord false (x ++ importWord ++ after) = some (x, after))
    (hz : z.head?.any isWord = false)
    (hknown : (x ++ importWord ++ z).takeWhile (· != '.') ∈ known) :
    (x ++ importWord).takeWhile (· != '.') ∈ known := by
  by_cases hpoint : '.' ∈ x
  · -- Both packages end before the word.
    have hsame (t : Text) : (x ++ t).takeWhile (· != '.') = x.takeWhile (· != '.') := by
      rw [List.takeWhile_append, if_neg]
      intro hlen
      have hall := List.takeWhile_eq_self_iff.mp
        ((List.takeWhile_prefix (· != '.')).eq_of_length hlen) '.' hpoint
      simp at hall
    rw [List.append_assoc, hsame] at hknown
    rwa [hsame]
  · have hplain : ∀ c ∈ x ++ importWord, (c != '.') = true := by
      have hword : '.' ∉ importWord := by decide
      intro c hc
      rw [bne_iff_ne]
      rintro rfl
      rcases List.mem_append.mp hc with hc | hc
      · exact hpoint hc
      · exact hword hc
    rw [List.takeWhile_append_of_pos hplain] at hknown
    rw [List.takeWhile_eq_self_iff.mpr hplain]
    apply hclosed _ hknown (x, z.takeWhile (· != '.'))
    apply cutAtWord?_replace (by decide) hcut
    cases z with
    | nil => rfl
    | cons c z =>
      rw [List.takeWhile_cons]
      split
      · exact hz
      · rfl

/-- The package stays known when the names after `import` change. -/
theorem root_mem_of_cut {t : Text} (hclosed : ImportClosed known known)
    (hcut : cutAtWord? importWord false t = some (before, after)) (hroot : root t ∈ known)
    (names : Text) : root (before ++ "import ".toList ++ names) ∈ known := by
  have hmem : 'p' ∈ t := by
    have hword : 'p' ∈ importWord := by decide
    rw [(cutAtWord?_eq_some hcut).1]
    exact List.mem_append_left _ (List.mem_append_right _ hword)
  obtain ⟨w, ws, hwords⟩ := List.exists_cons_of_ne_nil (words_ne_nil hmem (by decide))
  obtain ⟨-, -, -, -, hne, hw, -, -⟩ := exists_of_words_eq_cons hwords
  have hold : root t = w.takeWhile (· != '.') := by
    rw [root, hwords]
    rfl
  rw [hold] at hroot
  rcases cut_behind_or_inside hwords hcut with
    ⟨a, y, ha, hyne, hy, rfl⟩ | ⟨a, x, z, ha, rfl, rfl, hz, hcut'⟩
  · -- The first word of the text stays.
    have hnew : root (a ++ w ++ y ++ "import ".toList ++ names) = w.takeWhile (· != '.') := by
      rw [List.append_assoc, List.append_assoc]
      apply root_word_append ha hne hw
      intro c hc
      rw [List.head?_append_of_ne_nil _ hyne] at hc
      exact hy c hc
    rwa [hnew]
  · -- The first word is cut off after `import`.
    have hspace : isBlank ' ' = true := by decide
    have hform : a ++ x ++ "import ".toList ++ names =
        a ++ (x ++ importWord) ++ ' ' :: names := by
      simp [import_space]
    have hnew : root (a ++ x ++ "import ".toList ++ names) =
        (x ++ importWord).takeWhile (· != '.') := by
      rw [hform]
      apply root_word_append ha
      · exact List.append_ne_nil_of_right_ne_nil _ (by decide)
      · exact fun c hc => hw c (List.mem_append_left z hc)
      · intro c hc
        rw [← Option.some.inj hc]
        exact hspace
    rw [hnew]
    exact package_up_to_import_mem hclosed hcut' hz hroot

/-- A `from` import of a known package with other names is one of a known package. -/
theorem isForeignFrom_withNames (hopen : OpensSpaced fromWord line)
    (hclosed : ImportClosed known known)
    (hcut : cutAtWord? importWord false line = some (before, after))
    (hroot : root (afterWord fromWord line) ∈ known) (names : List Text) :
    isForeignFrom known (withNames line before names) = false := by
  obtain ⟨a, c, t, more, ha, -, hline, rfl, hcut'⟩ := hopen.1.cut_from hcut
  have hafter : afterWord fromWord line = c :: t := by
    rw [hline, afterWord_from ha]
  have hc : isBlank c = true := by
    have hspace := hopen.2
    rw [hafter] at hspace
    exact hspace
  have hform : withNames line (a ++ fromWord ++ c :: more) names = a ++ fromWord ++
      c :: (more ++ "import ".toList ++ (join ", ".toList names ++ ending line)) := by
    simp [withNames]
  have hnew : root (afterWord fromWord (withNames line (a ++ fromWord ++ c :: more) names)) ∈
      known := by
    rw [hform, afterWord_from ha, root_cons_blank hc]
    rw [hafter, root_cons_blank hc] at hroot
    exact root_mem_of_cut hclosed hcut' hroot _
  exact isForeignFrom_eq_false.mpr fun _ => hnew

end

end Pruner.Import
