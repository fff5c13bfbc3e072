import Pruner.Encoding.Utf8
import Mathlib.Data.List.Basic

/-!
Reading UTF-8 and writing it are inverse to each other.

A character is spelled in one of four forms, by the bits of its number in groups of six. The reader
goes through each form and is then between characters again. Conversely the bytes that take it from
there to there spell a character: longer forms and surrogates are refused with the first byte that
betrays them.
-/
namespace Pruner.Utf8

theorem toNat_byte {n : Nat} (h : n < 256) : (UInt8.ofNat n).toNat = n :=
  UInt8.toNat_ofNat_of_lt' h

theorem toNat_char {n : Nat} (h : n < 0xD800 ∨ 0xDFFF < n ∧ n < 0x110000) :
    (Char.ofNat n).toNat = n := by
  rw [Char.ofNat, dif_pos h]
  rfl

section Forms

variable {a x y z : Nat}

/-- Two bytes, for numbers from 80. -/
structure Two (a x : Nat) : Prop where
  lead : 2 ≤ a ∧ a < 32
  tail : x < 64

/-- Three bytes, for numbers from 800 that are no surrogates. -/
structure Three (a x y : Nat) : Prop where
  lead : a < 16
  middle : x < 64 ∧ (a = 0 → 32 ≤ x) ∧ (a = 13 → x < 32)
  tail : y < 64

/-- Four bytes, for numbers from 10000 to 10FFFF. -/
structure Four (a x y z : Nat) : Prop where
  lead : a ≤ 4
  middle : x < 64 ∧ (a = 0 → 16 ≤ x) ∧ (a = 4 → x < 16)
  tail : y < 64 ∧ z < 64

theorem encodeChar_one (ha : a < 0x80) : encodeChar (Char.ofNat a) = [.ofNat a] := by
  have hn : (Char.ofNat a).toNat = a := toNat_char (Or.inl (by omega))
  rw [encodeChar]
  dsimp only
  rw [hn, if_pos ha]

theorem encodeChar_two (h : Two a x) :
    encodeChar (Char.ofNat (a * 64 + x)) = [.ofNat (0xC0 + a), .ofNat (0x80 + x)] := by
  obtain ⟨⟨hlow, hhigh⟩, hx⟩ := h
  have hn : (Char.ofNat (a * 64 + x)).toNat = a * 64 + x := toNat_char (Or.inl (by omega))
  rw [encodeChar]
  dsimp only
  rw [hn, if_neg (by omega), if_pos (by omega), show (a * 64 + x) / 64 = a by omega,
    show (a * 64 + x) / 1 % 64 = x by omega]

theorem encodeChar_three (h : Three a x y) :
    encodeChar (Char.ofNat ((a * 64 + x) * 64 + y)) =
      [.ofNat (0xE0 + a), .ofNat (0x80 + x), .ofNat (0x80 + y)] := by
  obtain ⟨ha, ⟨hx, hlow, hhigh⟩, hy⟩ := h
  have hn : (Char.ofNat ((a * 64 + x) * 64 + y)).toNat = (a * 64 + x) * 64 + y :=
    toNat_char (by omega)
  rw [encodeChar]
  dsimp only
  rw [hn, if_neg (by omega), if_neg (by omega), if_pos (by omega),
    show ((a * 64 + x) * 64 + y) / 4096 = a by omega,
    show ((a * 64 + x) * 64 + y) / 64 % 64 = x by omega,
    show ((a * 64 + x) * 64 + y) / 1 % 64 = y by omega]

theorem encodeChar_four (h : Four a x y z) :
    encodeChar (Char.ofNat (((a * 64 + x) * 64 + y) * 64 + z)) =
      [.ofNat (0xF0 + a), .ofNat (0x80 + x), .ofNat (0x80 + y), .ofNat (0x80 + z)] := by
  obtain ⟨ha, ⟨hx, hlow, hhigh⟩, hy, hz⟩ := h
  have hn : (Char.ofNat (((a * 64 + x) * 64 + y) * 64 + z)).toNat =
      ((a * 64 + x) * 64 + y) * 64 + z := toNat_char (by omega)
  rw [encodeChar]
  dsimp only
  rw [hn, if_neg (by omega), if_neg (by omega), if_neg (by omega),
    show (((a * 64 + x) * 64 + y) * 64 + z) / 262144 = a by omega,
    show (((a * 64 + x) * 64 + y) * 64 + z) / 4096 % 64 = x by omega,
    show (((a * 64 + x) * 64 + y) * 64 + z) / 64 % 64 = y by omega,
    show (((a * 64 + x) * 64 + y) * 64 + z) / 1 % 64 = z by omega]

/-- Every character has one of the four forms. -/
theorem char_cases (c : Char) :
    (∃ a < 0x80, c = Char.ofNat a) ∨ (∃ a x, Two a x ∧ c = Char.ofNat (a * 64 + x)) ∨
    (∃ a x y, Three a x y ∧ c = Char.ofNat ((a * 64 + x) * 64 + y)) ∨
    ∃ a x y z, Four a x y z ∧ c = Char.ofNat (((a * 64 + x) * 64 + y) * 64 + z) := by
  have hvalid : c.toNat < 0xD800 ∨ 0xDFFF < c.toNat ∧ c.toNat < 0x110000 := c.valid
  generalize hn : c.toNat = n at hvalid
  obtain rfl : c = Char.ofNat n := by rw [← hn, Char.ofNat_toNat]
  by_cases hone : n < 0x80
  · exact Or.inl ⟨n, hone, rfl⟩
  by_cases htwo : n < 0x800
  · exact Or.inr (Or.inl ⟨n / 64, n % 64, ⟨by omega, by omega⟩, by congr 1; omega⟩)
  by_cases hthree : n < 0x10000
  · exact Or.inr (Or.inr (Or.inl ⟨n / 4096, n / 64 % 64, n % 64, ⟨by omega, by omega, by omega⟩,
      by congr 1; omega⟩))
  · exact Or.inr (Or.inr (Or.inr ⟨n / 262144, n / 4096 % 64, n / 64 % 64, n % 64,
      ⟨by omega, by omega, by omega⟩, by congr 1; omega⟩))

end Forms

section Reader

variable {a value low high x : Nat}

theorem first_two : ∀ a < 32, 2 ≤ a →
    first (0xC0 + a) = some (.inside 1 a 0x80 0xBF, []) := by
  decide

theorem first_three : ∀ a < 16, first (0xE0 + a) =
    some (.inside 2 a (if a = 0 then 0xA0 else 0x80) (if a = 13 then 0x9F else 0xBF), []) := by
  decide

theorem first_four : ∀ a < 5, first (0xF0 + a) =
    some (.inside 3 a (if a = 0 then 0x90 else 0x80) (if a = 4 then 0x8F else 0xBF), []) := by
  decide

/-- No other byte starts a character of several bytes. -/
theorem first_cases {b : Nat} {found : State × Text} (h : first b = some found) :
    b < 0x80 ∨ (∃ a < 32, 2 ≤ a ∧ b = 0xC0 + a) ∨ (∃ a < 16, b = 0xE0 + a) ∨
      ∃ a < 5, b = 0xF0 + a := by
  by_cases hlow : b < 0x80
  · exact Or.inl hlow
  by_cases hnone : b < 0xC2
  · simp [first, hlow, hnone] at h
  by_cases htwo : b < 0xE0
  · exact Or.inr (Or.inl ⟨b - 0xC0, by omega, by omega, by omega⟩)
  by_cases hthree : b < 0xF0
  · exact Or.inr (Or.inr (Or.inl ⟨b - 0xE0, by omega, by omega⟩))
  by_cases hfour : b < 0xF5
  · exact Or.inr (Or.inr (Or.inr ⟨b - 0xF0, by omega, by omega⟩))
  · have hbytes : b ≠ 0xE0 ∧ b ≠ 0xED ∧ b ≠ 0xF0 ∧ ¬b < 0xF4 ∧ b ≠ 0xF4 := by omega
    simp [first, hlow, hnone, htwo, hthree, hbytes] at h

theorem step_inside {needed : Nat} (hx : x < 64) (hlow : low ≤ 0x80 + x)
    (hhigh : 0x80 + x ≤ high) :
    step (.inside needed value low high) (.ofNat (0x80 + x)) =
      if needed ≤ 1 then some (.between, [Char.ofNat (value * 64 + x)])
      else some (.inside (needed - 1) (value * 64 + x) 0x80 0xBF, []) := by
  have hbyte : (UInt8.ofNat (0x80 + x)).toNat = 0x80 + x := toNat_byte (by omega)
  have hrange : (low ≤ 0x80 + x && 0x80 + x ≤ high) = true := by simp [hlow, hhigh]
  rw [step, hbyte]
  dsimp only
  rw [if_pos hrange, Nat.add_sub_cancel_left]

theorem run_last (hx : x < 64) (hlow : low ≤ 0x80 + x) (hhigh : 0x80 + x ≤ high) (bs : Bytes) :
    run (.inside 1 value low high) (.ofNat (0x80 + x) :: bs) =
      (run .between bs).map fun (s, t) => (s, Char.ofNat (value * 64 + x) :: t) := by
  rw [run, step_inside hx hlow hhigh]
  rfl

theorem run_inside {needed : Nat} (hx : x < 64) (hlow : low ≤ 0x80 + x) (hhigh : 0x80 + x ≤ high)
    (bs : Bytes) :
    run (.inside (needed + 2) value low high) (.ofNat (0x80 + x) :: bs) =
      run (.inside (needed + 1) (value * 64 + x) 0x80 0xBF) bs := by
  rw [run, step_inside hx hlow hhigh, if_neg (by omega)]
  simp

theorem run_lead {b : Nat} (hb : b < 256) {s : State} (h : first b = some (s, [])) (bs : Bytes) :
    run .between (.ofNat b :: bs) = run s bs := by
  rw [run, step, toNat_byte hb]
  dsimp only
  rw [h]
  simp

/-- The reader goes through the bytes of a character. -/
theorem run_encodeChar (c : Char) (bs : Bytes) :
    run .between (encodeChar c ++ bs) = (run .between bs).map fun (s, t) => (s, c :: t) := by
  rcases char_cases c with ⟨a, ha, rfl⟩ | ⟨a, x, h, rfl⟩ | ⟨a, x, y, h, rfl⟩ | ⟨a, x, y, z, h, rfl⟩
  · rw [encodeChar_one ha, List.singleton_append, run, step, toNat_byte (by omega)]
    dsimp only
    rw [first, if_pos ha]
    rfl
  · rw [encodeChar_two h]
    obtain ⟨⟨hlow, hhigh⟩, hx⟩ := h
    rw [List.cons_append, List.singleton_append, run_lead (by omega) (first_two a hhigh hlow),
      run_last hx (by omega) (by omega)]
  · rw [encodeChar_three h]
    obtain ⟨ha, ⟨hx, hlow, hhigh⟩, hy⟩ := h
    rw [List.cons_append, List.cons_append, List.singleton_append,
      run_lead (by omega) (first_three a ha),
      run_inside hx (by split <;> omega) (by split <;> omega), run_last hy (by omega) (by omega)]
  · rw [encodeChar_four h]
    obtain ⟨ha, ⟨hx, hlow, hhigh⟩, hy, hz⟩ := h
    rw [List.cons_append, List.cons_append, List.cons_append, List.singleton_append,
      run_lead (by omega) (first_four a (by omega)),
      run_inside hx (by split <;> omega) (by split <;> omega),
      run_inside hy (by omega) (by omega), run_last hz (by omega) (by omega)]

/-- Inside a character the next byte must be a tail in the given range. -/
theorem exists_tail {needed : Nat} {bs : Bytes} {t : Text} (hlow : 0x80 ≤ low) (hhigh : high ≤ 0xBF)
    (h : run (.inside needed value low high) bs = some (.between, t)) :
    ∃ x rest, x < 64 ∧ low ≤ 0x80 + x ∧ 0x80 + x ≤ high ∧ bs = .ofNat (0x80 + x) :: rest := by
  cases bs with
  | nil => simp [run] at h
  | cons b rest =>
    have hrange : low ≤ b.toNat ∧ b.toNat ≤ high := by
      by_contra hout
      have hstep : step (.inside needed value low high) b = none := by
        rw [step]
        dsimp only
        rw [if_neg (by simpa using hout)]
      rw [run, hstep] at h
      simp at h
    refine ⟨b.toNat - 0x80, rest, by omega, by omega, by omega, ?_⟩
    rw [show 0x80 + (b.toNat - 0x80) = b.toNat by omega, UInt8.ofNat_toNat]

/-- What brings the reader back between characters starts with a character. -/
theorem exists_char {b : UInt8} {bs : Bytes} {t : Text}
    (h : run .between (b :: bs) = some (.between, t)) :
    ∃ c rest, b :: bs = encodeChar c ++ rest := by
  obtain ⟨found, hfound⟩ : ∃ found, first b.toNat = some found := by
    rw [run, step] at h
    dsimp only at h
    cases hfirst : first b.toNat with
    | none => simp [hfirst] at h
    | some found => exact ⟨found, rfl⟩
  have hbyte : b = .ofNat b.toNat := UInt8.ofNat_toNat.symm
  rcases first_cases hfound with ha | ⟨a, ha, hlow, hb⟩ | ⟨a, ha, hb⟩ | ⟨a, ha, hb⟩
  · refine ⟨Char.ofNat b.toNat, bs, ?_⟩
    rw [encodeChar_one ha, ← hbyte, List.singleton_append]
  · rw [hbyte, hb, run_lead (by omega) (first_two a ha hlow)] at h
    obtain ⟨x, rest, hx, -, -, rfl⟩ := exists_tail (by omega) (by omega) h
    refine ⟨Char.ofNat (a * 64 + x), rest, ?_⟩
    rw [encodeChar_two ⟨⟨hlow, ha⟩, hx⟩, ← hb, ← hbyte]
    rfl
  · rw [hbyte, hb, run_lead (by omega) (first_three a ha)] at h
    obtain ⟨x, rest, hx, hlow, hhigh, rfl⟩ :=
      exists_tail (by split <;> omega) (by split <;> omega) h
    rw [run_inside hx hlow hhigh] at h
    obtain ⟨y, rest, hy, -, -, rfl⟩ := exists_tail (by omega) (by omega) h
    refine ⟨Char.ofNat ((a * 64 + x) * 64 + y), rest, ?_⟩
    rw [encodeChar_three ⟨ha, ⟨hx, by split at hlow <;> omega, by split at hhigh <;> omega⟩, hy⟩,
      ← hb, ← hbyte]
    rfl
  · rw [hbyte, hb, run_lead (by omega) (first_four a ha)] at h
    obtain ⟨x, rest, hx, hlow, hhigh, rfl⟩ :=
      exists_tail (by split <;> omega) (by split <;> omega) h
    rw [run_inside hx hlow hhigh] at h
    obtain ⟨y, rest, hy, hylow, hyhigh, rfl⟩ := exists_tail (by omega) (by omega) h
    rw [run_inside hy hylow hyhigh] at h
    obtain ⟨z, rest, hz, -, -, rfl⟩ := exists_tail (by omega) (by omega) h
    refine ⟨Char.ofNat (((a * 64 + x) * 64 + y) * 64 + z), rest, ?_⟩
    rw [encodeChar_four ⟨by omega, ⟨hx, by split at hlow <;> omega, by split at hhigh <;> omega⟩,
      hy, hz⟩, ← hb, ← hbyte]
    rfl

end Reader

theorem encode_cons (c : Char) (t : Text) : encode (c :: t) = encodeChar c ++ encode t :=
  List.flatMap_cons

theorem run_encode (t : Text) : run .between (encode t) = some (.between, t) := by
  induction t with
  | nil => rfl
  | cons c t ih => rw [encode_cons, run_encodeChar, ih, Option.map_some]

theorem encodeChar_ne_nil (c : Char) : encodeChar c ≠ [] := by
  rw [encodeChar]
  dsimp only
  split
  · simp
  · split
    · simp
    · split <;> simp

/-- The reader ends between characters exactly on what is written for a text. -/
theorem run_eq_between_iff {bs : Bytes} {t : Text} :
    run .between bs = some (.between, t) ↔ bs = encode t := by
  constructor
  · intro h
    -- The rest after the first character is shorter.
    induction hn : bs.length using Nat.strongRecOn generalizing bs t with
    | _ n ih =>
      cases bs with
      | nil =>
        rw [run, Option.some.injEq, Prod.mk.injEq] at h
        rw [← h.2]
        rfl
      | cons b bs =>
        obtain ⟨c, rest, hsplit⟩ := exists_char h
        rw [hsplit, run_encodeChar, Option.map_eq_some_iff] at h
        obtain ⟨⟨s, u⟩, hrest, hresult⟩ := h
        obtain ⟨rfl, rfl⟩ := Prod.mk.inj hresult
        have hshorter : rest.length < n := by
          have hlength := congrArg List.length hsplit
          have hpos := List.length_pos_iff.mpr (encodeChar_ne_nil c)
          rw [List.length_append] at hlength
          omega
        rw [hsplit, encode_cons, ih rest.length hshorter hrest rfl]
  · rintro rfl
    exact run_encode t

end Pruner.Utf8
