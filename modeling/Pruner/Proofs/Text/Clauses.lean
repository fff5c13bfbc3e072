import Pruner.Proofs.Text.Blank
import Pruner.Proofs.Text.Pieces

namespace Pruner.Text

/-- A clause: visible at both ends and without a comma. -/
structure IsClause (x : Text) : Prop where
  ne_nil : x ≠ []
  solid : Solid x
  no_comma : ',' ∉ x

theorem trim_append_left {a : Text} (ha : ∀ c ∈ a, isBlank c = true) (t : Text) :
    trim (a ++ t) = trim t := by
  rw [trim, trimLeft_append_of_blank ha, trim]

theorem trim_append_right {b : Text} (hb : ∀ c ∈ b, isBlank c = true) (t : Text) :
    trim (t ++ b) = trim t := by
  obtain ⟨a, b', ha, hb', ht⟩ := exists_trim t
  have hblank : ∀ c ∈ b' ++ b, isBlank c = true := by
    intro c hc
    exact (List.mem_append.mp hc).elim (hb' c) (hb c)
  conv_lhs => rw [ht, List.append_assoc]
  exact trim_append ha hblank (trim_solid t)

theorem commaPieces_of_not_mem {t : Text} (h : ',' ∉ t) : commaPieces t = [t] := by
  rw [commaPieces_eq_splitOn, List.splitOn_eq_singleton h]

theorem commaPieces_comma {s : Text} (h : ',' ∉ s) (t : Text) :
    commaPieces (s ++ ',' :: t) = s :: commaPieces t := by
  rw [commaPieces_eq_splitOn, commaPieces_eq_splitOn, List.splitOn_append_cons_self_of_not_mem h]

/-- A piece is a connected part of the text. -/
theorem infix_of_mem_commaPieces {t x : Text} (hx : x ∈ commaPieces t) : x <:+: t := by
  induction t using separator_induction ',' with
  | last s hs =>
    rw [commaPieces_of_not_mem hs] at hx
    rw [List.mem_singleton.mp hx]
  | cons s t hs ih =>
    rw [commaPieces_comma hs] at hx
    rcases List.mem_cons.mp hx with rfl | hx
    · exact (List.prefix_append x _).isInfix
    · apply (ih hx).trans
      exact ((List.suffix_cons ',' t).trans (List.suffix_append s _)).isInfix

/-- Blanks around a list do not show in its trimmed pieces. -/
theorem map_trim_commaPieces_append {a b : Text} (ha : ∀ c ∈ a, isBlank c = true)
    (hb : ∀ c ∈ b, isBlank c = true) (t : Text) :
    (commaPieces (a ++ t ++ b)).map trim = (commaPieces t).map trim := by
  have hac : ',' ∉ a := not_mem_of_blank ha (by decide)
  have hbc : ',' ∉ b := not_mem_of_blank hb (by decide)
  induction t using separator_induction ',' generalizing a with
  | last s hs =>
    have hall : ',' ∉ a ++ s ++ b := by simp [hac, hs, hbc]
    rw [commaPieces_of_not_mem hall, commaPieces_of_not_mem hs]
    simp [trim_append_right hb, trim_append_left ha]
  | cons s t hs ih =>
    have hhead : ',' ∉ a ++ s := by simp [hac, hs]
    have hsplit : a ++ (s ++ ',' :: t) ++ b = a ++ s ++ ',' :: (t ++ b) := by simp
    have htail := ih (a := []) (by simp) (by simp)
    rw [hsplit, commaPieces_comma hhead, commaPieces_comma hs, List.map_cons, List.map_cons,
      trim_append_left ha, ← htail]
    rfl

theorem map_trim_commaPieces_trim (t : Text) :
    (commaPieces (trim t)).map trim = (commaPieces t).map trim := by
  obtain ⟨a, b, ha, hb, ht⟩ := exists_trim t
  conv_rhs => rw [ht]
  exact (map_trim_commaPieces_append ha hb _).symm

theorem join_ne_nil {zs : List Text} (hne : zs ≠ []) (h : ∀ z ∈ zs, z ≠ []) (sep : Text) :
    join sep zs ≠ [] := by
  obtain ⟨z, zs, rfl⟩ := List.exists_cons_of_ne_nil hne
  have hz : z ≠ [] := h z (by simp)
  cases zs with
  | nil => exact hz
  | cons y ys => simp [join, hz]

theorem solid_join {zs : List Text} (h : ∀ z ∈ zs, IsClause z) (sep : Text) :
    Solid (join sep zs) := by
  induction zs with
  | nil => exact ⟨by simp [join], by simp [join]⟩
  | cons z zs ih =>
    have hz : IsClause z := h z (by simp)
    cases zs with
    | nil => exact hz.solid
    | cons y ys =>
      have hrest : ∀ x ∈ y :: ys, IsClause x := fun x hx => h x (List.mem_cons_of_mem z hx)
      have hne : join sep (y :: ys) ≠ [] := join_ne_nil (by simp) (fun x hx => (hrest x hx).ne_nil) sep
      rw [join]
      constructor
      · rw [List.append_assoc, List.head?_append_of_ne_nil _ hz.ne_nil]
        exact hz.solid.head
      · rw [List.getLast?_append_of_ne_nil _ hne]
        exact (ih hrest).last

/-- Clauses are read back from the list in which they are written. -/
theorem map_trim_commaPieces_join {zs : List Text} (hne : zs ≠ []) (h : ∀ z ∈ zs, IsClause z) :
    (commaPieces (join ", ".toList zs)).map trim = zs := by
  obtain ⟨z, rest, rfl⟩ := List.exists_cons_of_ne_nil hne
  have hcomma : ∀ x ∈ z :: rest.map (' ' :: ·), ',' ∉ x := by
    intro x hx
    rcases List.mem_cons.mp hx with rfl | hx
    · exact (h x (by simp)).no_comma
    · obtain ⟨y, hy, rfl⟩ := List.mem_map.mp hx
      simpa using (h y (List.mem_cons_of_mem z hy)).no_comma
  have hspace (y : Text) (hy : y ∈ rest) : trim (' ' :: y) = y := by
    have hsolid := (h y (List.mem_cons_of_mem z hy)).solid
    exact (trim_append_left (a := [' ']) (by simp [isBlank]) y).trans (trim_eq_self hsolid)
  rw [join_comma_space, commaPieces_join (by simp) hcomma, List.map_cons, List.map_map,
    trim_eq_self (h z (by simp)).solid]
  congr 1
  conv_rhs => rw [← List.map_id rest]
  exact List.map_congr_left hspace

end Pruner.Text
