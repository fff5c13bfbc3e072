import Pruner.Proofs.Rule.Entry

/-!
Which lines are taken for a dictionary entry that can be removed on its own.

A line is cut at its last colon and its last comma. The key must be a literal, and the value must
close its brackets and strings, but nothing looks at the commas inside of it. So a line may hold more
than the entry: an unpacked dictionary behind the value goes with it.
-/
namespace Pruner.DuplicateKey

open Pruner.Text Pruner.Line Pruner.Token Pruner.Syntax

section Parts

/-- The line is `key : value ,` with blanks around its parts. Blanks after the key count as a part
of it, unless they begin with a line feed. -/
structure IsEntry (line key value : Text) : Prop where
  split : ∃ a b c d : Text, (∀ x ∈ a ++ b ++ c ++ d, isBlank x = true) ∧ (∀ x ∈ b.head?, x = '\n') ∧
    line = a ++ (key ++ (b ++ ':' :: (c ++ (value ++ ',' :: d))))
  key_starts : ∃ x ∈ key.head?, isBlank x = false
  value_starts : ∀ x ∈ value.head?, isBlank x = false
  inline : '\n' ∉ key ∧ '\n' ∉ value

/-- The text of a key denotes a value that equals the given key. -/
def Denotes (text : Text) (key : Key) : Prop :=
  ∃ value, Literal.ofText text = .ok value ∧ value.isKey key = true

/-- A value that is complete on its line: it can be read to its end, and has none of the characters
that continue or end a statement. -/
structure IsClosed (value : Text) : Prop where
  read : (scan value).error = none
  no_backslash : '\\' ∉ value
  no_colon : ':' ∉ value
  no_semicolon : ';' ∉ value

theorem isClosed_iff {value : Text} : IsClosed value ↔ isPartial value [] = false := by
  have hjoined : isJoined [] = false := rfl
  simp only [isPartial, hjoined, Bool.or_eq_false_iff, Option.isSome_eq_false_iff,
    Option.isNone_iff_eq_none, List.contains_eq_mem, decide_eq_false_iff_not]
  constructor
  · rintro ⟨read, no_backslash, no_colon, no_semicolon⟩
    exact ⟨⟨⟨⟨no_backslash, no_colon⟩, no_semicolon⟩, read⟩, trivial⟩
  · rintro ⟨⟨⟨⟨no_backslash, no_colon⟩, no_semicolon⟩, read⟩, -⟩
    exact ⟨read, no_backslash, no_colon, no_semicolon⟩

end Parts

section Cuts

variable {t k v : Text}

theorem beforeLastComma?_eq_some_iff :
    beforeLastComma? t = some v ↔
      ∃ d : Text, (∀ x ∈ d, isBlank x = true) ∧ t = v ++ ',' :: d ∧ '\n' ∉ v := by
  rw [beforeLastComma?]
  constructor
  · intro h
    split at h
    · rename_i rest hrest
      split at h
      · contradiction
      · rename_i hnewline
        obtain rfl := Option.some.inj h
        refine ⟨(t.reverse.takeWhile isBlank).reverse, ?_, ?_, by simpa using hnewline⟩
        · intro x hx
          exact List.mem_takeWhile_imp (List.mem_reverse.mp hx)
        · have hsplit : t.reverse = t.reverse.takeWhile isBlank ++ ',' :: rest := by
            rw [← hrest, List.takeWhile_append_dropWhile]
          calc t = (t.reverse.takeWhile isBlank ++ ',' :: rest).reverse := by
                rw [← hsplit, List.reverse_reverse]
            _ = rest.reverse ++ ',' :: (t.reverse.takeWhile isBlank).reverse := by
                rw [List.reverse_append, List.reverse_cons, List.append_assoc, List.singleton_append]
    · contradiction
  · rintro ⟨d, hd, rfl, hnewline⟩
    have hcomma : isBlank ',' = false := by decide
    have hblank : ∀ x ∈ d.reverse, isBlank x = true := fun x hx => hd x (List.mem_reverse.mp hx)
    have hdrop : (v ++ ',' :: d).reverse.dropWhile isBlank = ',' :: v.reverse := by
      rw [List.reverse_append, List.reverse_cons, List.append_assoc,
        List.dropWhile_append_of_pos hblank]
      simp [hcomma]
    rw [hdrop]
    simp [hnewline]

/-- What follows a key: blanks, a colon, blanks, the value, the last comma and blanks. -/
theorem valueAfter?_eq_some_iff :
    valueAfter? t = some v ↔ ∃ b c d : Text, (∀ x ∈ b ++ c ++ d, isBlank x = true) ∧
      t = b ++ ':' :: (c ++ (v ++ ',' :: d)) ∧ (∀ x ∈ v.head?, isBlank x = false) ∧ '\n' ∉ v := by
  have hcolon : isBlank ':' = false := by decide
  have hcomma : isBlank ',' = false := by decide
  have hcut (u : Text) : u = u.takeWhile isBlank ++ trimLeft u :=
    List.takeWhile_append_dropWhile.symm
  have htaken (u : Text) : ∀ x ∈ u.takeWhile isBlank, isBlank x = true :=
    fun x => List.mem_takeWhile_imp
  rw [valueAfter?]
  constructor
  · intro h
    split at h
    · rename_i rest hrest
      obtain ⟨d, hd, hsplit, hnewline⟩ := beforeLastComma?_eq_some_iff.mp h
      refine ⟨t.takeWhile isBlank, rest.takeWhile isBlank, d, ?_, ?_, ?_, hnewline⟩
      · simp only [List.mem_append]
        rintro x ((hx | hx) | hx)
        · exact htaken t x hx
        · exact htaken rest x hx
        · exact hd x hx
      · calc t = t.takeWhile isBlank ++ trimLeft t := hcut t
          _ = t.takeWhile isBlank ++ ':' :: rest := by rw [hrest]
          _ = t.takeWhile isBlank ++ ':' :: (rest.takeWhile isBlank ++ (v ++ ',' :: d)) := by
            rw [← hsplit, ← hcut rest]
      · intro x hx
        apply trimLeft_head rest
        obtain ⟨tail, rfl⟩ := List.head?_eq_some_iff.mp hx
        rw [hsplit]
        rfl
    · contradiction
  · rintro ⟨b, c, d, hblank, rfl, hstarts, hnewline⟩
    simp only [List.mem_append] at hblank
    have hbefore : trimLeft (b ++ ':' :: (c ++ (v ++ ',' :: d))) = ':' :: (c ++ (v ++ ',' :: d)) := by
      rw [trimLeft_append_of_blank fun x hx => hblank x (Or.inl (Or.inl hx))]
      exact trimLeft_eq_self (by simpa using hcolon)
    have hvalue : trimLeft (c ++ (v ++ ',' :: d)) = v ++ ',' :: d := by
      rw [trimLeft_append_of_blank fun x hx => hblank x (Or.inl (Or.inr hx))]
      apply trimLeft_eq_self
      cases v with
      | nil => simpa using hcomma
      | cons x v => simpa using hstarts
    simp only [hbefore, hvalue]
    exact beforeLastComma?_eq_some_iff.mpr ⟨d, fun x hx => hblank x (Or.inr hx), rfl, hnewline⟩

/-- Where a value follows, there is a key. -/
theorem longestKey?_isSome (h : valueAfter? t = some v) : (longestKey? t).isSome = true := by
  cases t with
  | nil => simp [valueAfter?, trimLeft] at h
  | cons c cs => simp [longestKey?, h]

/-- A key reaches up to a colon, or to the end of its physical line. -/
theorem longestKey?_eq_some (h : longestKey? t = some (k, v)) :
    ∃ u : Text, t = k ++ u ∧ '\n' ∉ k ∧ valueAfter? u = some v ∧
      ∀ x ∈ u.head?, x = ':' ∨ x = '\n' := by
  induction t generalizing k with
  | nil => simp [longestKey?] at h
  | cons c cs ih =>
    rw [longestKey?, Option.or_eq_some_iff] at h
    rcases h with hlonger | ⟨hnone, hhere⟩
    · -- The key goes on behind this character.
      split at hlonger
      · contradiction
      · rename_i hc
        obtain ⟨⟨key, value⟩, hkey, heq⟩ := Option.map_eq_some_iff.mp hlonger
        obtain ⟨rfl, rfl⟩ := Prod.mk.inj heq
        obtain ⟨u, rfl, hnewline, hvalue, hhead⟩ := ih hkey
        refine ⟨u, rfl, ?_, hvalue, hhead⟩
        rw [List.mem_cons, not_or]
        exact ⟨fun heq => hc (by simp [← heq]), hnewline⟩
    · -- The key ends here, as nothing longer is followed by a value.
      obtain ⟨value, hvalue, heq⟩ := Option.map_eq_some_iff.mp hhere
      obtain ⟨rfl, rfl⟩ := Prod.mk.inj heq
      refine ⟨c :: cs, rfl, by simp, hvalue, ?_⟩
      intro x hx
      obtain rfl : c = x := by simpa using hx
      by_cases hc : c = '\n'
      · exact Or.inr hc
      · refine Or.inl ?_
        rw [if_neg (by simpa using hc), Option.map_eq_none_iff] at hnone
        by_contra hcolon
        obtain ⟨b, b', d, hblank, hsplit, hstarts, hnewline⟩ := valueAfter?_eq_some_iff.mp hvalue
        cases b with
        | nil => exact hcolon (List.cons.inj hsplit).1
        | cons y b =>
          -- Another blank before the colon could have been taken into the key.
          have hcs : cs = b ++ ':' :: (b' ++ (value ++ ',' :: d)) := (List.cons.inj hsplit).2
          have hvalue' : valueAfter? cs = some value :=
            valueAfter?_eq_some_iff.mpr
              ⟨b, b', d, fun x hx => hblank x (List.mem_cons_of_mem y hx), hcs, hstarts, hnewline⟩
          have hsome := longestKey?_isSome hvalue'
          rw [hnone] at hsome
          contradiction

/-- A key up to the end of its physical line is found. -/
theorem longestKey?_newline (hk : '\n' ∉ k) (hv : valueAfter? ('\n' :: t) = some v) :
    longestKey? (k ++ '\n' :: t) = some (k, v) := by
  induction k with
  | nil => simp [longestKey?, hv]
  | cons c k ih =>
    rw [List.mem_cons, not_or] at hk
    have hc : (c == '\n') = false := by simpa using Ne.symm hk.1
    rw [List.cons_append, longestKey?, hc, ih hk.2]
    simp

end Cuts

section Lines

variable {line k v : Text} {key : Key}

/-- The parts that a line is cut into make an entry of it. -/
theorem isEntry_of_eq_some (hk : k ≠ []) (h : entryParts? line = some (k, v)) : IsEntry line k v := by
  obtain ⟨u, htrim, hnewline, hvalue, hhead⟩ := longestKey?_eq_some h
  obtain ⟨b, c, d, hblank, rfl, hstarts, hnewline'⟩ := valueAfter?_eq_some_iff.mp hvalue
  refine ⟨⟨line.takeWhile isBlank, b, c, d, ?_, ?_, ?_⟩, ?_, hstarts, hnewline, hnewline'⟩
  · intro x hx
    simp only [List.mem_append] at hx hblank
    rcases hx with ((hx | hx) | hx) | hx
    · exact List.mem_takeWhile_imp hx
    · exact hblank x (Or.inl (Or.inl hx))
    · exact hblank x (Or.inl (Or.inr hx))
    · exact hblank x (Or.inr hx)
  · intro x hx
    obtain ⟨b, rfl⟩ := List.head?_eq_some_iff.mp hx
    apply (hhead x rfl).resolve_left
    rintro rfl
    have hcolon := hblank ':' (by simp)
    revert hcolon
    decide
  · rw [← htrim]
    exact List.takeWhile_append_dropWhile.symm
  · obtain ⟨x, k, rfl⟩ := List.exists_cons_of_ne_nil hk
    exact ⟨x, rfl, trimLeft_head line x (by rw [htrim]; rfl)⟩

/-- A line is cut into the parts of an entry if no later colon could end the key. -/
theorem entryParts?_of_isEntry (hv : ':' ∉ v) (h : IsEntry line k v) : entryParts? line = some (k, v) := by
  obtain ⟨⟨a, b, c, d, hblank, hnewlines, rfl⟩, ⟨x, hx, hvisible⟩, hstarts, hnewline, hnewline'⟩ := h
  simp only [List.mem_append] at hblank
  have htrim : trimLeft (a ++ (k ++ (b ++ ':' :: (c ++ (v ++ ',' :: d))))) =
      k ++ (b ++ ':' :: (c ++ (v ++ ',' :: d))) := by
    rw [trimLeft_append_of_blank fun y hy => hblank y (Or.inl (Or.inl (Or.inl hy)))]
    obtain ⟨k, rfl⟩ := List.head?_eq_some_iff.mp hx
    exact trimLeft_eq_self (by simpa using hvisible)
  have hvalue : valueAfter? (b ++ ':' :: (c ++ (v ++ ',' :: d))) = some v := by
    apply valueAfter?_eq_some_iff.mpr
    refine ⟨b, c, d, fun y hy => hblank y ?_, rfl, hstarts, hnewline'⟩
    rw [List.mem_append, List.mem_append] at hy
    rcases hy with (hy | hy) | hy
    · exact Or.inl (Or.inl (Or.inr hy))
    · exact Or.inl (Or.inr hy)
    · exact Or.inr hy
  rw [entryParts?, htrim]
  cases b with
  | nil =>
    apply longestKey?_append hnewline ?_ hvalue
    have hcolon : isBlank ':' = false := by decide
    have hc : ':' ∉ c := not_mem_of_blank (fun y hy => hblank y (Or.inl (Or.inr hy))) hcolon
    have hd : ':' ∉ d := not_mem_of_blank (fun y hy => hblank y (Or.inr hy)) hcolon
    simp [hc, hd, hv]
  | cons y b =>
    obtain rfl : y = '\n' := hnewlines y rfl
    exact longestKey?_newline hnewline hvalue

/-- The parts of a line, if its value has no colon, are those that the line is cut into. -/
theorem entryParts?_eq_some_iff (hk : k ≠ []) (hv : ':' ∉ v) :
    entryParts? line = some (k, v) ↔ IsEntry line k v :=
  ⟨isEntry_of_eq_some hk, entryParts?_of_isEntry hv⟩

theorem Denotes.ne_nil (h : Denotes k key) : k ≠ [] := by
  rintro rfl
  obtain ⟨value, hvalue, -⟩ := h
  have hnone : Literal.ofText [] = .error .malformed := rfl
  rw [hnone] at hvalue
  contradiction

/-- A line is accepted exactly if it is a key that denotes the given one, a colon, a value that is
closed, and a comma. -/
theorem hasKey_eq_true_iff :
    hasKey line key = .ok true ↔
      '#' ∉ line ∧ ∃ k v, IsEntry line k v ∧ Denotes k key ∧ IsClosed v := by
  have hcut : hasKey line key = .ok true ↔
      '#' ∉ line ∧ ∃ k v, entryParts? line = some (k, v) ∧ Denotes k key ∧ IsClosed v := by
    rw [hasKey]
    by_cases hhash : '#' ∈ line
    · simp [hhash]
    · rw [if_neg (by simpa using hhash)]
      cases hentry : entryParts? line with
      | none => simp
      | some parts =>
        obtain ⟨k, v⟩ := parts
        dsimp only
        cases hliteral : Literal.ofText k with
        | error e => cases e <;> simp [Fault.ofLiteralError?, Denotes, hliteral]
        | ok value => simp [Denotes, hliteral, hhash, isClosed_iff, and_comm]
  rw [hcut]
  apply and_congr_right
  intro _
  refine exists_congr fun k => exists_congr fun v => ?_
  constructor
  · rintro ⟨hentry, hdenotes, hclosed⟩
    exact ⟨(entryParts?_eq_some_iff hdenotes.ne_nil hclosed.no_colon).mp hentry, hdenotes, hclosed⟩
  · rintro ⟨hentry, hdenotes, hclosed⟩
    exact ⟨(entryParts?_eq_some_iff hdenotes.ne_nil hclosed.no_colon).mpr hentry, hdenotes, hclosed⟩

end Lines

section Single

/-- Commas among tokens that stand outside of brackets. A bracket that closes what was never opened
leaves the depth at zero. -/
def outerCommas : Nat → List Token → Nat
  | _, [] => 0
  | depth, t :: ts =>
    if t.kind = .op then
      (if depth = 0 ∧ t.text = [','] then 1 else 0) +
        outerCommas (depthAfter depth t.text).toNat ts
    else outerCommas depth ts

/-- Commas of a value that stand outside of brackets and strings. -/
def commasOutside (value : Text) : Nat :=
  outerCommas 0 (scan value).tokens

/-- The line is an entry for the key whose value is closed, and nothing else: no comma stands between
the value and the comma that ends the line. -/
def HoldsOneEntry (line : Text) (key : Key) : Prop :=
  ∃ k v, IsEntry line k v ∧ Denotes k key ∧ IsClosed v ∧ commasOutside v = 0

variable {line k v k' v' : Text} {key : Key}

theorem IsEntry.key_ne_nil (h : IsEntry line k v) : k ≠ [] := by
  rintro rfl
  obtain ⟨x, hx, -⟩ := h.key_starts
  simp at hx

/-- A line has one cut into a key and a value that is closed. -/
theorem IsEntry.unique (h : IsEntry line k v) (hv : IsClosed v) (h' : IsEntry line k' v')
    (hv' : IsClosed v') : k' = k ∧ v' = v := by
  have hcut := (entryParts?_eq_some_iff h.key_ne_nil hv.no_colon).mpr h
  have hcut' := (entryParts?_eq_some_iff h'.key_ne_nil hv'.no_colon).mpr h'
  exact Prod.mk.inj (Option.some.inj (hcut'.symm.trans hcut))

/-- A line is accepted for a key exactly if it has no comment and is a literal that denotes the key, a
colon, a value that is closed, and a comma. Such a line holds the entry and nothing else exactly if
the value has no comma outside of its brackets and strings, which is not looked at. -/
theorem hasKey_holds_one_entry_iff (line : Text) (key : Key) :
    (hasKey line key = .ok true ↔
      '#' ∉ line ∧ ∃ k v, IsEntry line k v ∧ Denotes k key ∧ IsClosed v) ∧
    ∀ k v, IsEntry line k v → Denotes k key → IsClosed v →
      (HoldsOneEntry line key ↔ commasOutside v = 0) := by
  refine ⟨hasKey_eq_true_iff, ?_⟩
  intro k v hentry hdenotes hclosed
  constructor
  · rintro ⟨k', v', hentry', -, hclosed', hcommas⟩
    obtain ⟨-, rfl⟩ := hentry.unique hclosed hentry' hclosed'
    exact hcommas
  · intro hcommas
    exact ⟨k, v, hentry, hdenotes, hclosed, hcommas⟩

theorem denotes_quoted_a : Denotes "'a'".toList (.constant (.str [97])) := by
  let q : Quoted := ⟨[], by simp, '\'', by simp, false, ['a'], by simp, by decide⟩
  exact ⟨.constant (.str [97]), q.ofText_text, rfl⟩

/-- A line that also unpacks another dictionary is accepted for its key. A line with one entry is
accepted as well, even if commas stand inside of its value. -/
theorem unpacking_accepted :
    (hasKey "'a': 1, **x,\n".toList (.constant (.str [97])) = .ok true ∧
      ¬HoldsOneEntry "'a': 1, **x,\n".toList (.constant (.str [97]))) ∧
    (hasKey "'a': f(1, 2),\n".toList (.constant (.str [97])) = .ok true ∧
      HoldsOneEntry "'a': f(1, 2),\n".toList (.constant (.str [97]))) := by
  have hentry (v : Text) (hstarts : v.head?.all (isBlank · == false) = true) (hinline : '\n' ∉ v) :
      IsEntry ("'a': ".toList ++ (v ++ ",\n".toList)) "'a'".toList v :=
    ⟨⟨[], [], [' '], ['\n'], List.all_eq_true.mp (by decide), by simp, rfl⟩, ⟨'\'', rfl, by decide⟩,
      fun x hx => by simpa using (Option.all_eq_true _ _).mp hstarts x hx, by decide, hinline⟩
  have hsplat : IsEntry "'a': 1, **x,\n".toList "'a'".toList "1, **x".toList :=
    hentry "1, **x".toList (by decide) (by decide)
  have hcall : IsEntry "'a': f(1, 2),\n".toList "'a'".toList "f(1, 2)".toList :=
    hentry "f(1, 2)".toList (by decide) (by decide)
  have hsplatClosed : IsClosed "1, **x".toList := isClosed_iff.mpr (by decide +kernel)
  have hcallClosed : IsClosed "f(1, 2)".toList := isClosed_iff.mpr (by decide +kernel)
  have hsplatCommas : commasOutside "1, **x".toList = 1 := by decide +kernel
  have hcallCommas : commasOutside "f(1, 2)".toList = 0 := by decide +kernel
  obtain ⟨haccept, hone⟩ := hasKey_holds_one_entry_iff "'a': 1, **x,\n".toList
    (.constant (.str [97]))
  obtain ⟨haccept', hone'⟩ := hasKey_holds_one_entry_iff "'a': f(1, 2),\n".toList
    (.constant (.str [97]))
  refine ⟨⟨haccept.mpr ⟨by decide, _, _, hsplat, denotes_quoted_a, hsplatClosed⟩, ?_⟩,
    haccept'.mpr ⟨by decide, _, _, hcall, denotes_quoted_a, hcallClosed⟩,
    (hone' _ _ hcall denotes_quoted_a hcallClosed).mpr hcallCommas⟩
  rw [hone _ _ hsplat denotes_quoted_a hsplatClosed, hsplatCommas]
  exact one_ne_zero

end Single

end Pruner.DuplicateKey
