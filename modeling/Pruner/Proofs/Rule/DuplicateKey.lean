import Pruner.Rule.DuplicateKey
import Pruner.Proofs.Fix.Round
import Pruner.Proofs.Key.Equality
import Mathlib.Data.List.Induction

namespace Pruner.DuplicateKey

open Pruner.Text Pruner.Diagnostic

/-- Whether the line that a diagnostic points at is an entry with its key and nothing else. -/
def standsAlone (lines : List Text) (entry : Int × Key) : Edit Bool := do
  let line ← lineAt lines entry.1
  hasKey line entry.2

theorem allHaveKey_cons_eq_ok {lines : List Text} {entry : Int × Key} {rest : List (Int × Key)}
    {good : Bool} :
    allHaveKey lines (entry :: rest) = .ok good ↔
      ∃ found others, standsAlone lines entry = .ok found ∧ allHaveKey lines rest = .ok others ∧
        good = (found && others) := by
  rw [allHaveKey, standsAlone]
  simp only [Fix.bind_eq_ok, Except.ok.injEq]
  constructor
  · rintro ⟨line, hline, found, hfound, others, hothers, rfl⟩
    exact ⟨found, others, ⟨line, hline, hfound⟩, hothers, rfl⟩
  · rintro ⟨found, others, ⟨line, hline, hfound⟩, hothers, rfl⟩
    exact ⟨line, hline, found, hfound, others, hothers, rfl⟩

/-- A group is looked at as a whole: it fails if one of its lines does, and it is good if all are. -/
theorem allHaveKey_eq_ok {lines : List Text} {entries : List (Int × Key)} {good : Bool} :
    allHaveKey lines entries = .ok good ↔
      (∀ e ∈ entries, ∃ found, standsAlone lines e = .ok found) ∧
        (good = true ↔ ∀ e ∈ entries, standsAlone lines e = .ok true) := by
  induction entries generalizing good with
  | nil => simp [allHaveKey, eq_comm]
  | cons entry rest ih =>
    rw [allHaveKey_cons_eq_ok]
    simp only [List.forall_mem_cons]
    constructor
    · rintro ⟨found, others, hfound, hothers, rfl⟩
      obtain ⟨hread, hgood⟩ := ih.mp hothers
      refine ⟨⟨⟨found, hfound⟩, hread⟩, ?_⟩
      rw [Bool.and_eq_true, hgood, hfound, Except.ok.injEq]
    · rintro ⟨⟨⟨found, hfound⟩, hread⟩, hgood⟩
      -- Whether the others are good does not depend on the first entry.
      obtain ⟨others, hothers⟩ : ∃ others : Bool,
          others = true ↔ ∀ e ∈ rest, standsAlone lines e = .ok true := by
        by_cases hall : ∀ e ∈ rest, standsAlone lines e = .ok true
        · exact ⟨true, by simpa using hall⟩
        · exact ⟨false, by simpa using hall⟩
      refine ⟨found, others, hfound, ih.mpr ⟨hread, hothers⟩, ?_⟩
      rw [Bool.eq_iff_iff, Bool.and_eq_true, hgood, hothers, hfound, Except.ok.injEq]

theorem goodLines_cons_eq_ok {lines : List Text} {group : Key × List (Int × Key)}
    {groups : List (Key × List (Int × Key))} {numbers : List Int} :
    goodLines lines (group :: groups) = .ok numbers ↔
      ∃ good rest, allHaveKey lines group.2 = .ok good ∧ goodLines lines groups = .ok rest ∧
        numbers = if good then group.2.map (·.1) ++ rest else rest := by
  rw [goodLines]
  simp only [Fix.bind_eq_ok, Except.ok.injEq]
  constructor
  · rintro ⟨good, hgood, rest, hrest, rfl⟩
    exact ⟨good, rest, hgood, hrest, rfl⟩
  · rintro ⟨good, rest, hgood, hrest, rfl⟩
    exact ⟨good, hgood, rest, hrest, rfl⟩

theorem exists_goodLines_iff {lines : List Text} {groups : List (Key × List (Int × Key))} :
    (∃ numbers, goodLines lines groups = .ok numbers) ↔
      ∀ g ∈ groups, ∀ e ∈ g.2, ∃ found, standsAlone lines e = .ok found := by
  induction groups with
  | nil => simp [goodLines]
  | cons group groups ih =>
    simp only [List.forall_mem_cons, ← ih, goodLines_cons_eq_ok]
    constructor
    · rintro ⟨numbers, good, rest, hgood, hrest, -⟩
      exact ⟨(allHaveKey_eq_ok.mp hgood).1, rest, hrest⟩
    · rintro ⟨hread, rest, hrest⟩
      by_cases hall : ∀ e ∈ group.2, standsAlone lines e = .ok true
      · exact ⟨_, true, rest, allHaveKey_eq_ok.mpr ⟨hread, by simpa using hall⟩, hrest, rfl⟩
      · exact ⟨_, false, rest, allHaveKey_eq_ok.mpr ⟨hread, by simpa using hall⟩, hrest, rfl⟩

theorem mem_goodLines {lines : List Text} {groups : List (Key × List (Int × Key))}
    {numbers : List Int} (h : goodLines lines groups = .ok numbers) {n : Int} :
    n ∈ numbers ↔
      ∃ g ∈ groups, (∀ e ∈ g.2, standsAlone lines e = .ok true) ∧ ∃ key, (n, key) ∈ g.2 := by
  induction groups generalizing numbers with
  | nil =>
    rw [← Except.ok.inj h]
    simp
  | cons group groups ih =>
    obtain ⟨good, rest, hgood, hrest, rfl⟩ := goodLines_cons_eq_ok.mp h
    have hiff := (allHaveKey_eq_ok.mp hgood).2
    have hlines : n ∈ group.2.map (·.1) ↔ ∃ key, (n, key) ∈ group.2 := by
      simp [List.mem_map]
    simp only [List.mem_cons, exists_eq_or_imp, ← ih hrest, ← hiff, ← hlines]
    cases good with
    | false => simp
    | true => simp

section Groups

/-- The groups are the classes of the entries under equality of keys. -/
structure Grouped (entries : List (Int × Key)) (groups : List (Key × List (Int × Key))) : Prop where
  distinct : groups.Pairwise fun g h => g.1.same h.1 = false
  members : ∀ g ∈ groups, ∀ e, e ∈ g.2 ↔ e ∈ entries ∧ g.1.same e.2 = true
  cover : ∀ e ∈ entries, ∃ g ∈ groups, g.1.same e.2 = true

variable {entries : List (Int × Key)} {groups : List (Key × List (Int × Key))} {entry : Int × Key}

/-- An entry with a new key gets a group of its own. -/
theorem insert_of_new (h : ∀ g ∈ groups, g.1.same entry.2 = false) :
    groupByKey.insert entry groups = groups ++ [(entry.2, [entry])] := by
  induction groups with
  | nil => rfl
  | cons g groups ih =>
    rw [List.forall_mem_cons] at h
    rw [groupByKey.insert, if_neg (by simp [h.1]), ih h.2]
    rfl

/-- An entry with a known key is added to the group of that key, and to no other. -/
theorem insert_of_known (hdistinct : groups.Pairwise fun g h => g.1.same h.1 = false)
    (h : ∃ g ∈ groups, g.1.same entry.2 = true) :
    groupByKey.insert entry groups =
      groups.map fun g => if g.1.same entry.2 then (g.1, g.2 ++ [entry]) else g := by
  induction groups with
  | nil => simp at h
  | cons g groups ih =>
    obtain ⟨hfirst, hrest⟩ := List.pairwise_cons.mp hdistinct
    rw [groupByKey.insert, List.map_cons]
    by_cases hg : g.1.same entry.2 = true
    · rw [if_pos hg, if_pos hg]
      -- The keys of the other groups differ from that of this one, so also from that of the entry.
      have hothers : ∀ g' ∈ groups, g'.1.same entry.2 = false := by
        intro g' hg'
        rw [← Bool.not_eq_true]
        intro hsame
        have htrans := Key.same_trans hg (Key.same_symm hsame)
        rw [hfirst g' hg'] at htrans
        contradiction
      congr 1
      conv_lhs => rw [← List.map_id groups]
      apply List.map_congr_left
      intro g' hg'
      rw [if_neg (by simp [hothers g' hg']), id]
    · rw [if_neg hg, if_neg hg]
      simp only [List.mem_cons, exists_eq_or_imp] at h
      rw [ih hrest (h.resolve_left hg)]

/-- An entry that joins the group of its key leaves the keys of the groups as they are. -/
theorem Grouped.insert_known (h : Grouped entries groups)
    (hknown : ∃ g ∈ groups, g.1.same entry.2 = true) :
    Grouped (entries ++ [entry]) (groupByKey.insert entry groups) := by
  rw [insert_of_known h.distinct hknown]
  have hfst (g : Key × List (Int × Key)) :
      (if g.1.same entry.2 then (g.1, g.2 ++ [entry]) else g).1 = g.1 := by
    split <;> rfl
  refine ⟨?_, ?_, ?_⟩
  · rw [List.pairwise_map]
    simpa only [hfst] using h.distinct
  · intro g' hg' e
    obtain ⟨g, hg, rfl⟩ := List.mem_map.mp hg'
    rw [hfst, List.mem_append, List.mem_singleton]
    have hold := h.members g hg e
    by_cases hsame : g.1.same entry.2 = true
    · rw [if_pos hsame, List.mem_append, List.mem_singleton, hold]
      constructor
      · rintro (⟨hmem, hkey⟩ | rfl)
        · exact ⟨Or.inl hmem, hkey⟩
        · exact ⟨Or.inr rfl, hsame⟩
      · rintro ⟨hmem | hmem, hkey⟩
        · exact Or.inl ⟨hmem, hkey⟩
        · exact Or.inr hmem
    · -- The new entry does not have the key of this group.
      rw [if_neg hsame, hold]
      constructor
      · rintro ⟨hmem, hkey⟩
        exact ⟨Or.inl hmem, hkey⟩
      · rintro ⟨hmem | rfl, hkey⟩
        · exact ⟨hmem, hkey⟩
        · exact absurd hkey hsame
  · intro e he
    obtain ⟨g, hg, hsame⟩ : ∃ g ∈ groups, g.1.same e.2 = true := by
      rcases List.mem_append.mp he with he | he
      · exact h.cover e he
      · rwa [List.mem_singleton.mp he]
    refine ⟨_, List.mem_map_of_mem hg, ?_⟩
    rw [hfst]
    exact hsame

/-- An entry that opens a group leaves the other groups as they are. -/
theorem Grouped.insert_new (h : Grouped entries groups)
    (hnew : ∀ g ∈ groups, g.1.same entry.2 = false) :
    Grouped (entries ++ [entry]) (groupByKey.insert entry groups) := by
  rw [insert_of_new hnew]
  refine ⟨?_, ?_, ?_⟩
  · rw [List.pairwise_append]
    refine ⟨h.distinct, List.pairwise_singleton _ _, ?_⟩
    intro g hg g' hg'
    rw [List.mem_singleton.mp hg']
    exact hnew g hg
  · intro g hg e
    rw [List.mem_append, List.mem_singleton]
    rcases List.mem_append.mp hg with hold | hg
    · rw [h.members g hold e]
      constructor
      · rintro ⟨hmem, hkey⟩
        exact ⟨Or.inl hmem, hkey⟩
      · rintro ⟨hmem | rfl, hkey⟩
        · exact ⟨hmem, hkey⟩
        · rw [hnew g hold] at hkey
          contradiction
    · -- Of the old entries none has the new key: each is in a group with another one.
      rw [List.mem_singleton.mp hg, List.mem_singleton]
      constructor
      · rintro rfl
        exact ⟨Or.inr rfl, Key.same_refl _⟩
      · rintro ⟨hmem | hmem, hkey⟩
        · obtain ⟨g', hg', hsame⟩ := h.cover e hmem
          have htrans := Key.same_trans hsame (Key.same_symm hkey)
          rw [hnew g' hg'] at htrans
          contradiction
        · exact hmem
  · intro e he
    rcases List.mem_append.mp he with he | he
    · obtain ⟨g, hg, hsame⟩ := h.cover e he
      exact ⟨g, List.mem_append_left _ hg, hsame⟩
    · rw [List.mem_singleton.mp he]
      exact ⟨(entry.2, [entry]), by simp, Key.same_refl _⟩

theorem Grouped.insert (h : Grouped entries groups) (entry : Int × Key) :
    Grouped (entries ++ [entry]) (groupByKey.insert entry groups) := by
  by_cases hknown : ∃ g ∈ groups, g.1.same entry.2 = true
  · exact h.insert_known hknown
  · exact h.insert_new (by simpa using hknown)

theorem grouped_groupByKey (entries : List (Int × Key)) : Grouped entries (groupByKey entries) := by
  rw [groupByKey]
  -- The groups are made from the first entry on, so the induction takes entries off the end.
  induction entries using List.reverseRecOn with
  | nil => exact ⟨List.Pairwise.nil, by simp, by simp⟩
  | append_singleton entries entry ih =>
    rw [List.foldl_append, List.foldl_cons, List.foldl_nil]
    exact ih.insert entry

end Groups

section Removable

variable {ds : List Diagnostic} {source : Text}

theorem mem_repeatedKeys {n : Int} {key : Key} :
    (n, key) ∈ repeatedKeys ds ↔ ⟨n, .repeatedKey key⟩ ∈ ds := by
  rw [repeatedKeys, List.mem_filterMap]
  constructor
  · rintro ⟨⟨line, problem⟩, hd, hentry⟩
    cases problem with
    | repeatedKey key' =>
      obtain ⟨rfl, rfl⟩ : line = n ∧ key' = key := by simpa using hentry
      exact hd
    | _ => simp at hentry
  · intro hd
    exact ⟨_, hd, rfl⟩

/-- Looking for the lines to remove fails exactly if it fails at one of the reported lines. -/
theorem exists_removableLines_iff :
    (∃ numbers, removableLines ds source = .ok numbers) ↔
      ∀ n key, ⟨n, .repeatedKey key⟩ ∈ ds →
        ∃ found, standsAlone (pieces (· == '\n') source) (n, key) = .ok found := by
  have hgroups := grouped_groupByKey (repeatedKeys ds)
  rw [removableLines, exists_goodLines_iff]
  constructor
  · intro hread n key hd
    rw [← mem_repeatedKeys] at hd
    obtain ⟨g, hg, hsame⟩ := hgroups.cover _ hd
    exact hread g hg _ ((hgroups.members g hg _).mpr ⟨hd, hsame⟩)
  · rintro hread g hg ⟨n, key⟩ he
    exact hread n key (mem_repeatedKeys.mp ((hgroups.members g hg _).mp he).1)

/-- A line can be removed exactly if it is reported for a key all of whose reported lines are entries
with that key and nothing else. -/
theorem mem_removableLines {numbers : List Int} (h : removableLines ds source = .ok numbers)
    {n : Int} :
    n ∈ numbers ↔ ∃ key, ⟨n, .repeatedKey key⟩ ∈ ds ∧
      ∀ n' key', ⟨n', .repeatedKey key'⟩ ∈ ds → key.same key' = true →
        standsAlone (pieces (· == '\n') source) (n', key') = .ok true := by
  have hgroups := grouped_groupByKey (repeatedKeys ds)
  rw [mem_goodLines h]
  constructor
  · rintro ⟨g, hg, hgood, key, he⟩
    obtain ⟨hd, hkey⟩ := (hgroups.members g hg _).mp he
    refine ⟨key, mem_repeatedKeys.mp hd, ?_⟩
    intro n' key' hd' hsame
    apply hgood
    exact (hgroups.members g hg _).mpr ⟨mem_repeatedKeys.mpr hd', Key.same_trans hkey hsame⟩
  · rintro ⟨key, hd, hall⟩
    rw [← mem_repeatedKeys] at hd
    obtain ⟨g, hg, hkey⟩ := hgroups.cover _ hd
    refine ⟨g, hg, ?_, key, (hgroups.members g hg _).mpr ⟨hd, hkey⟩⟩
    rintro ⟨n', key'⟩ he
    obtain ⟨hd', hkey'⟩ := (hgroups.members g hg _).mp he
    exact hall n' key' (mem_repeatedKeys.mp hd') (Key.same_trans (Key.same_symm hkey) hkey')

end Removable

end Pruner.DuplicateKey
