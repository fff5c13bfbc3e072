import Pruner.Scope.RepeatedKey
import Pruner.Proofs.Key.Equality
import Mathlib.Data.List.Perm.Lattice

namespace Pruner.Scope

section Rule

/-- The values that a key has in a dictionary. -/
def valuesOf (k : Key) (pairs : List (Key × Key)) : List Key :=
  (pairs.filter (k.same ·.1)).map (·.2)

/-- Whether a key is reported: it occurs at least twice, and one of its values occurs exactly
once. -/
def isRepeated (pairs : List (Key × Key)) (k : Key) : Bool :=
  2 ≤ (valuesOf k pairs).length &&
    (valuesOf k pairs).any fun v => (valuesOf k pairs).countP v.same == 1

/-- What is reported of a dictionary with one entry on each line, the first of them on line 2: every
line with a repeated key, and nothing else. -/
def keyReport (pairs : List (Key × Key)) : List Diagnostic :=
  (pairs.zipIdx 2).flatMap fun (p, number) =>
    if isRepeated pairs p.1 then [⟨number, .repeatedKey p.1⟩] else []

theorem mem_keyReport {pairs : List (Key × Key)} {d : Diagnostic} :
    d ∈ keyReport pairs ↔ ∃ i p, pairs[i]? = some p ∧ isRepeated pairs p.1 = true ∧
      d = ⟨((i + 2 : Nat) : Int), .repeatedKey p.1⟩ := by
  simp only [keyReport, List.mem_flatMap, Prod.exists, List.mem_ite_nil_right, List.mem_singleton]
  constructor
  · rintro ⟨key, value, number, hmem, hrepeated, rfl⟩
    obtain ⟨hnumber, hp⟩ := List.mk_mem_zipIdx_iff_le_and_getElem?_sub.mp hmem
    exact ⟨number - 2, key, value, hp, hrepeated, by rw [Nat.sub_add_cancel hnumber]⟩
  · rintro ⟨i, key, value, hp, hrepeated, rfl⟩
    exact ⟨key, value, i + 2,
      List.mk_mem_zipIdx_iff_le_and_getElem?_sub.mpr ⟨by omega, by simpa using hp⟩, hrepeated, rfl⟩

theorem valuesOf_congr {k l : Key} (h : k.same l = true) (pairs : List (Key × Key)) :
    valuesOf k pairs = valuesOf l pairs := by
  simp only [valuesOf, Key.same_congr h]

theorem isRepeated_congr {k l : Key} (h : k.same l = true) (pairs : List (Key × Key)) :
    isRepeated pairs k = isRepeated pairs l := by
  rw [isRepeated, isRepeated, valuesOf_congr h]

/-- A key with two entries is reported if its values all differ. -/
theorem isRepeated_of_pairwise {pairs : List (Key × Key)} {k : Key}
    (hlen : 2 ≤ (valuesOf k pairs).length)
    (hvalues : (valuesOf k pairs).Pairwise fun v w => v.same w = false) :
    isRepeated pairs k = true := by
  rw [isRepeated, Bool.and_eq_true, decide_eq_true_eq]
  refine ⟨hlen, ?_⟩
  generalize valuesOf k pairs = values at hlen hvalues
  cases values with
  | nil => simp at hlen
  | cons v values =>
    -- The first value occurs only in its own place.
    have hcount : values.countP v.same = 0 := by
      rw [List.countP_eq_zero]
      intro w hw
      simp [(List.pairwise_cons.mp hvalues).1 w hw]
    simp [hcount, Key.same_refl]

end Rule

section Groups

variable {fuel l : List DictEntry}

theorem mem_groupEntries {g : List DictEntry} (h : g ∈ groupEntries fuel l) :
    ∃ first rest, g = first :: rest ∧ ∀ e ∈ g, e ∈ l ∧ first.key.same e.key = true := by
  induction fuel generalizing l with
  | nil => simp [groupEntries] at h
  | cons _ fuel ih =>
    cases l with
    | nil => simp [groupEntries] at h
    | cons first rest =>
      rw [groupEntries, List.mem_cons] at h
      rcases h with rfl | h
      · refine ⟨first, _, rfl, fun e he => ?_⟩
        rcases List.mem_cons.mp he with rfl | he
        · exact ⟨List.mem_cons_self, Key.same_refl _⟩
        · obtain ⟨hmem, hsame⟩ := List.mem_filter.mp he
          exact ⟨List.mem_cons_of_mem first hmem, hsame⟩
      · obtain ⟨first', rest', rfl, hall⟩ := ih h
        refine ⟨first', rest', rfl, fun e he => ⟨?_, (hall e he).2⟩⟩
        exact List.mem_cons_of_mem first (List.mem_filter.mp (hall e he).1).1

/-- The entries with a key are those outside of the group of another key. -/
theorem filter_same_of_other {k k' : Key} (hother : k.same k' = false) (l : List DictEntry) :
    (l.filter fun e => !k.same e.key).filter (k'.same ·.key) = l.filter (k'.same ·.key) := by
  rw [List.filter_filter]
  refine List.filter_congr fun e _ => ?_
  by_cases he : k'.same e.key = true
  · have hout : k.same e.key = false := by
      rw [← Bool.not_eq_true]
      intro hin
      rw [Key.same_trans hin (Key.same_symm he)] at hother
      contradiction
    rw [he, hout]
    rfl
  · simp [he]

/-- To go through the groups is to go through the entries, each with the group of its key. -/
theorem flatMap_groupEntries_perm {α : Type} (f : List DictEntry → DictEntry → List α)
    (hfuel : l.length ≤ fuel.length) :
    ((groupEntries fuel l).flatMap fun g => g.flatMap (f g)).Perm
      (l.flatMap fun e => f (l.filter (e.key.same ·.key)) e) := by
  induction fuel generalizing l with
  | nil =>
    rw [List.eq_nil_of_length_eq_zero (Nat.le_zero.mp hfuel)]
    exact List.Perm.nil
  | cons _ fuel ih =>
    cases l with
    | nil => exact List.Perm.nil
    | cons first rest =>
      let inGroup (e : DictEntry) : Bool := first.key.same e.key
      have hrefl : first.key.same first.key = true := Key.same_refl _
      have hgroup : first :: rest.filter inGroup = (first :: rest).filter inGroup :=
        (List.filter_cons_of_pos (p := inGroup) hrefl).symm
      have hothers : rest.filter (!inGroup ·) = (first :: rest).filter (!inGroup ·) :=
        (List.filter_cons_of_neg (by simp [inGroup, hrefl])).symm
      have hrest := ih (l := rest.filter (!inGroup ·))
        ((List.length_filter_le _ rest).trans (by simpa using hfuel))
      rw [groupEntries, List.flatMap_cons]
      change ((first :: rest.filter inGroup).flatMap (f (first :: rest.filter inGroup)) ++
        (groupEntries fuel (rest.filter (!inGroup ·))).flatMap fun g => g.flatMap (f g)).Perm _
      refine (List.Perm.append_left _ hrest).trans ?_
      rw [hgroup, hothers]
      generalize first :: rest = l
      refine List.Perm.trans ?_ ((List.filter_append_perm inGroup l).flatMap_right _)
      rw [List.flatMap_append]
      -- Both within the group and without it, an entry has the same group as among all entries.
      apply List.Perm.of_eq
      congr 1
      · refine List.flatMap_congr fun e he => ?_
        have hsame := (List.mem_filter.mp he).2
        congr 2
        funext x
        exact Key.same_congr hsame x.key
      · refine List.flatMap_congr fun e he => ?_
        have hother : first.key.same e.key = false := by
          simpa [inGroup] using (List.mem_filter.mp he).2
        rw [filter_same_of_other hother]

/-- The report of an entry whose key has the given group. -/
def groupReport (g : List DictEntry) (e : DictEntry) : List (Nat × Key) :=
  if 2 ≤ g.length && hasSingleValue g then [(e.line, e.key)] else []

theorem flatMap_groupReport {g : List DictEntry} {k : Key} (hmany : 2 ≤ g.length)
    (hkey : ∀ e ∈ g, e.key = k) :
    g.flatMap (groupReport g) = if hasSingleValue g then g.map fun e => (e.line, k) else [] := by
  by_cases hsingle : hasSingleValue g = true
  · have hreport : ∀ e ∈ g, groupReport g e = [(e.line, k)] := by
      intro e he
      simp [groupReport, hmany, hsingle, hkey e he]
    rw [if_pos hsingle, List.flatMap_congr hreport, List.map_eq_flatMap]
  · simp [groupReport, hsingle]

/-- The check, entry by entry: where equal keys are the same constant, each is shown as it stands. -/
theorem repeatedKeys_perm {keys : List (Option Syntax.Expr)} {values : List Syntax.Expr}
    (hl : dictEntries keys values = l)
    (hkeys : ∀ e ∈ l, (∃ c, e.key = .constant c) ∧
      ∀ e' ∈ l, e.key.same e'.key = true → e.key = e'.key) :
    (repeatedKeys keys values).Perm
      (l.flatMap fun e => groupReport (l.filter (e.key.same ·.key)) e) := by
  refine List.Perm.trans (List.Perm.of_eq ?_) (flatMap_groupEntries_perm groupReport (le_refl _))
  rw [repeatedKeys, hl]
  refine List.flatMap_congr fun g hg => ?_
  obtain ⟨first, rest, rfl, hall⟩ := mem_groupEntries hg
  obtain ⟨⟨c, hc⟩, hfirst⟩ := hkeys first (hall first List.mem_cons_self).1
  obtain ⟨line, key, value⟩ := first
  obtain rfl : key = .constant c := hc
  cases rest with
  | nil => rfl
  | cons second more =>
    refine (flatMap_groupReport (by simp) fun e he => ?_).symm
    exact (hfirst e (hall e he).1 (hall e he).2).symm

/-- A dictionary with one entry on each line. -/
def displayEntries (pairs : List (Key × Key)) : List DictEntry :=
  (pairs.zipIdx 2).map fun (p, number) => ⟨number, p.1, some p.2⟩

theorem groupReport_display (pairs : List (Key × Key)) (k : Key) (e : DictEntry) :
    groupReport ((displayEntries pairs).filter (k.same ·.key)) e =
      if isRepeated pairs k then [(e.line, e.key)] else [] := by
  have hgroup : (displayEntries pairs).filter (k.same ·.key) =
      ((pairs.zipIdx 2).filter (k.same ·.1.1)).map fun (p, number) => ⟨number, p.1, some p.2⟩ := by
    rw [displayEntries, List.filter_map]
    rfl
  have hvalues : valuesOf k pairs = ((pairs.zipIdx 2).filter (k.same ·.1.1)).map (·.1.2) := by
    conv_lhs => rw [← List.zipIdx_map_fst 2 pairs]
    rw [valuesOf, List.filter_map, List.map_map]
    rfl
  have hsingle : hasSingleValue ((displayEntries pairs).filter (k.same ·.key)) =
      (valuesOf k pairs).any fun v => (valuesOf k pairs).countP v.same == 1 := by
    simp [hgroup, hvalues, hasSingleValue, List.countP_eq_length_filter, List.filter_map,
      Function.comp_def]
  have hlength : ((displayEntries pairs).filter (k.same ·.key)).length =
      (valuesOf k pairs).length := by
    simp [hgroup, hvalues]
  rw [groupReport, isRepeated, hsingle, hlength]

/-- The check reports of a dictionary whose equal keys are the same constant what the rule says. -/
theorem perm_keyReport {keys : List (Option Syntax.Expr)} {values : List Syntax.Expr}
    {pairs : List (Key × Key)} (hentries : dictEntries keys values = displayEntries pairs)
    (hkeys : ∀ p ∈ pairs, (∃ c, p.1 = .constant c) ∧
      ∀ q ∈ pairs, p.1.same q.1 = true → p.1 = q.1) :
    ((repeatedKeys keys values).map fun (number, k) =>
      (⟨number, .repeatedKey k⟩ : Diagnostic)).Perm (keyReport pairs) := by
  have hmem {e : DictEntry} (he : e ∈ displayEntries pairs) : ∃ p ∈ pairs, e.key = p.1 := by
    obtain ⟨⟨p, number⟩, hp, rfl⟩ := List.mem_map.mp he
    exact ⟨p, List.fst_mem_of_mem_zipIdx hp, rfl⟩
  have hperm := repeatedKeys_perm hentries (by
    intro e he
    obtain ⟨p, hp, hkey⟩ := hmem he
    rw [hkey]
    refine ⟨(hkeys p hp).1, fun e' he' hsame => ?_⟩
    obtain ⟨q, hq, hkey'⟩ := hmem he'
    rw [hkey'] at hsame ⊢
    exact (hkeys p hp).2 q hq hsame)
  refine (hperm.map _).trans (List.Perm.of_eq ?_)
  simp only [groupReport_display, List.map_flatMap]
  rw [displayEntries, List.flatMap_map, keyReport]
  refine List.flatMap_congr fun x _ => ?_
  dsimp only
  split <;> rfl

end Groups

end Pruner.Scope
