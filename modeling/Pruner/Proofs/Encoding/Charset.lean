import Pruner.Encoding.Charset
import Pruner.Proofs.Encoding.Detect
import Pruner.Proofs.Encoding.Utf8

namespace Pruner.Charset

def all : List Charset :=
  [utf8, utf8Signed, ascii, latin1, latin9, windows1252]

theorem mem_all (charset : Charset) : charset ∈ all := by
  cases charset <;> decide

section Narrow

/-- The byte of a character by its number, where there is one. -/
def byteCode (charset : Charset) (n : Nat) : Nat :=
  match charset with
  | latin9 => ((latin9Table.map Prod.swap).lookup n).getD n
  | windows1252 => ((windows1252Table.map Prod.swap).lookup n).getD n
  | _ => n

theorem byteCode_of_charOf? (charset : Charset) {b : UInt8} {c : Char} (h : charset.charOf? b = some c) :
    charset.byteCode c.toNat = b.toNat := by
  have hall : ∀ charset ∈ all, ∀ n < 256,
      (charset.charOf? (.ofNat n)).all (fun c => charset.byteCode c.toNat == n) = true := by
    decide +kernel
  have hbyte := hall charset (mem_all charset) b.toNat b.toNat_lt
  rw [UInt8.ofNat_toNat, h] at hbyte
  simpa using hbyte

/-- A character has a byte exactly if the byte has the character. -/
theorem charOf?_eq_some_iff {charset : Charset} {b : UInt8} {c : Char} :
    charset.charOf? b = some c ↔ charset.byteOf? c = some b := by
  constructor
  · intro h
    rw [byteOf?]
    cases hfound : (List.range 256).findSome? fun n =>
        if charset.charOf? (.ofNat n) == some c then some (UInt8.ofNat n) else none with
    | none =>
      have hnone := List.findSome?_eq_none_iff.mp hfound b.toNat (List.mem_range.mpr b.toNat_lt)
      simp [h] at hnone
    | some b' =>
      -- Another byte for the same character has the same number.
      obtain ⟨n, -, hn⟩ := List.exists_of_findSome?_eq_some hfound
      split at hn
      · rename_i hchar
        rw [beq_iff_eq] at hchar
        have hsame := (byteCode_of_charOf? charset hchar).symm.trans (byteCode_of_charOf? charset h)
        rw [← Option.some.inj hn, UInt8.toNat_inj.mp hsame]
      · simp at hn
  · intro h
    obtain ⟨n, -, hn⟩ := List.exists_of_findSome?_eq_some h
    split at hn
    · rename_i hchar
      rw [← Option.some.inj hn]
      exact beq_iff_eq.mp hchar
    · simp at hn

theorem mapM_cons_eq_some {α β : Type} {f : α → Option β} {x : α} {xs : List α} {ys : List β} :
    (x :: xs).mapM f = some ys ↔ ∃ y zs, f x = some y ∧ xs.mapM f = some zs ∧ ys = y :: zs := by
  simp only [List.mapM_cons, Option.bind_eq_bind, Option.pure_def, Option.bind_eq_some_iff,
    Option.some.injEq, exists_and_left, eq_comm (b := ys)]

theorem mapM_charOf?_iff {charset : Charset} {bs : Bytes} {t : Text} :
    bs.mapM charset.charOf? = some t ↔ t.mapM charset.byteOf? = some bs := by
  induction bs generalizing t with
  | nil =>
    cases t with
    | nil => simp
    | cons c cs =>
      rw [mapM_cons_eq_some]
      simp
  | cons b bs ih =>
    cases t with
    | nil =>
      rw [mapM_cons_eq_some]
      simp
    | cons c cs =>
      rw [mapM_cons_eq_some, mapM_cons_eq_some]
      simp only [charOf?_eq_some_iff, ih, List.cons.injEq]
      constructor
      · rintro ⟨_, _, hc, hcs, rfl, rfl⟩
        exact ⟨b, bs, hc, hcs, rfl, rfl⟩
      · rintro ⟨_, _, hb, hbs, rfl, rfl⟩
        exact ⟨c, cs, hb, hbs, rfl, rfl⟩

end Narrow

section All

variable {charset : Charset} {c d : Char} {t u : Text} {bs : Bytes}

/-- A character can have several bytes. -/
def IsWide (charset : Charset) : Prop :=
  charset = utf8 ∨ charset = utf8Signed

/-- The bytes of a character. -/
def bytesOf? (charset : Charset) (c : Char) : Option Bytes :=
  match charset with
  | utf8 | utf8Signed => some (Utf8.encodeChar c)
  | _ => (charset.byteOf? c).map ([·])

/-- The bytes of a text, without a signature. -/
def body? (charset : Charset) : Text → Option Bytes
  | [] => some []
  | c :: cs => do
    let first ← charset.bytesOf? c
    let rest ← charset.body? cs
    return first ++ rest

/-- The signature in front. -/
def mark : Charset → Bytes
  | utf8Signed => Utf8.signature
  | _ => []

theorem body?_cons_eq_some : charset.body? (c :: t) = some bs ↔
    ∃ first rest, charset.bytesOf? c = some first ∧ charset.body? t = some rest ∧
      bs = first ++ rest := by
  simp only [body?, Option.bind_eq_bind, Option.pure_def, Option.bind_eq_some_iff,
    Option.some.injEq, exists_and_left, eq_comm (b := bs)]

theorem body?_append_eq_some : charset.body? (t ++ u) = some bs ↔
    ∃ first rest, charset.body? t = some first ∧ charset.body? u = some rest ∧ bs = first ++ rest := by
  induction t generalizing bs with
  | nil => simp [body?]
  | cons c t ih =>
    rw [List.cons_append, body?_cons_eq_some]
    constructor
    · rintro ⟨first, rest, hc, hrest, rfl⟩
      obtain ⟨more, last, ht, hu, rfl⟩ := ih.mp hrest
      exact ⟨first ++ more, last, body?_cons_eq_some.mpr ⟨first, more, hc, ht, rfl⟩, hu,
        (List.append_assoc ..).symm⟩
    · rintro ⟨first, last, hfirst, hu, rfl⟩
      obtain ⟨x, more, hc, ht, rfl⟩ := body?_cons_eq_some.mp hfirst
      exact ⟨x, more ++ last, hc, ih.mpr ⟨more, last, ht, hu, rfl⟩, List.append_assoc ..⟩

theorem cases_of_narrow (h : ¬charset.IsWide) :
    charset = ascii ∨ charset = latin1 ∨ charset = latin9 ∨ charset = windows1252 := by
  cases charset <;> simp [IsWide] at h ⊢

theorem bytesOf?_wide (h : charset.IsWide) (c : Char) :
    charset.bytesOf? c = some (Utf8.encodeChar c) := by
  rcases h with rfl | rfl <;> rfl

theorem bytesOf?_narrow (h : ¬charset.IsWide) (c : Char) :
    charset.bytesOf? c = (charset.byteOf? c).map ([·]) := by
  rcases cases_of_narrow h with rfl | rfl | rfl | rfl <;> rfl

theorem mark_narrow (h : ¬charset.IsWide) : charset.mark = [] := by
  rcases cases_of_narrow h with rfl | rfl | rfl | rfl <;> rfl

theorem body?_wide (h : charset.IsWide) (t : Text) : charset.body? t = some (Utf8.encode t) := by
  induction t with
  | nil => rfl
  | cons c t ih =>
    exact body?_cons_eq_some.mpr ⟨_, _, bytesOf?_wide h c, ih, Utf8.encode_cons c t⟩

theorem body?_narrow (h : ¬charset.IsWide) (t : Text) :
    charset.body? t = t.mapM charset.byteOf? := by
  induction t with
  | nil => rfl
  | cons c t ih =>
    rw [body?, bytesOf?_narrow h, ih, List.mapM_cons]
    cases charset.byteOf? c <;> rfl

/-- A text is stored as its signature and its bytes. -/
theorem encode?_eq_some : charset.encode? t = some bs ↔
    ∃ body, charset.body? t = some body ∧ bs = charset.mark ++ body := by
  by_cases hwide : charset.IsWide
  · rw [body?_wide hwide]
    rcases hwide with rfl | rfl <;> simp [encode?, mark, eq_comm (b := bs)]
  · have hencode : charset.encode? t = t.mapM charset.byteOf? := by
      rcases cases_of_narrow hwide with rfl | rfl | rfl | rfl <;> rfl
    rw [hencode, ← body?_narrow hwide, mark_narrow hwide]
    simp

theorem decode?_narrow (h : ¬charset.IsWide) (bs : Bytes) :
    charset.decode? false bs = bs.mapM charset.charOf? := by
  have hrun : charset.run .between bs = (bs.mapM charset.charOf?).map (Utf8.State.between, ·) := by
    rcases cases_of_narrow h with rfl | rfl | rfl | rfl <;> rfl
  have hunsigned (t : Text) : charset.unsigned t = t := by
    rcases cases_of_narrow h with rfl | rfl | rfl | rfl <;> rfl
  rw [decode?, hrun]
  cases bs.mapM charset.charOf? with
  | none => rfl
  | some t => exact congrArg some (hunsigned t)

theorem decode?_wide (h : charset.IsWide) :
    charset.decode? false bs = some t ↔ ∃ u, bs = Utf8.encode u ∧ charset.unsigned u = t := by
  have hrun : charset.run .between bs = Utf8.run .between bs := by
    rcases h with rfl | rfl <;> rfl
  simp only [← Utf8.run_eq_between_iff]
  rw [decode?, hrun]
  match Utf8.run .between bs with
  | none => simp
  | some (.between, u) => simp
  | some (.inside .., u) => simp

/-- The signature is a character of its own. -/
theorem signature_append (t : Text) :
    Utf8.signature ++ Utf8.encode t = Utf8.encode (Char.ofNat 0xFEFF :: t) := by
  rw [Utf8.encode_cons]
  rfl

/-- What is written is read back. -/
theorem decode?_of_encode? (h : charset.encode? t = some bs) : charset.decode? false bs = some t := by
  obtain ⟨body, hbody, rfl⟩ := encode?_eq_some.mp h
  by_cases hwide : charset.IsWide
  · rw [body?_wide hwide, Option.some.injEq] at hbody
    subst hbody
    rw [decode?_wide hwide]
    rcases hwide with rfl | rfl
    · exact ⟨t, rfl, rfl⟩
    · exact ⟨Char.ofNat 0xFEFF :: t, signature_append t, rfl⟩
  · rw [body?_narrow hwide] at hbody
    rw [mark_narrow hwide, List.nil_append, decode?_narrow hwide, mapM_charOf?_iff, hbody]

/-- What is read is written back, if the signature was there. -/
theorem encode?_of_decode? (h : charset.decode? false bs = some t)
    (hsigned : charset = utf8Signed → Utf8.signature <+: bs) : charset.encode? t = some bs := by
  rw [encode?_eq_some]
  by_cases hwide : charset.IsWide
  · rw [decode?_wide hwide] at h
    obtain ⟨u, rfl, hu⟩ := h
    rw [body?_wide hwide]
    rcases hwide with rfl | rfl
    · exact ⟨Utf8.encode t, rfl, by rw [← hu]; rfl⟩
    · -- The character that spells the signature comes first.
      obtain ⟨rest, hrest⟩ := hsigned rfl
      have hrun := Utf8.run_encode u
      rw [← hrest, show Utf8.signature = Utf8.encodeChar (Char.ofNat 0xFEFF) from rfl,
        Utf8.run_encodeChar, Option.map_eq_some_iff] at hrun
      obtain ⟨⟨s, v⟩, hv, hresult⟩ := hrun
      obtain ⟨rfl, rfl⟩ := Prod.mk.inj hresult
      exact ⟨Utf8.encode t, rfl, by rw [← hu, ← signature_append]; rfl⟩
  · rw [decode?_narrow hwide, mapM_charOf?_iff] at h
    exact ⟨bs, by rw [body?_narrow hwide, h], by rw [mark_narrow hwide, List.nil_append]⟩

theorem store_eq_ok {name : String} : (charset.codec name).store t = .ok bs ↔
    charset.encode? t = some bs := by
  rw [codec]
  dsimp only
  cases charset.encode? t <;> simp

theorem read_eq_ok {name : String} : (charset.codec name).read none bs = .ok t ↔
    charset.decode? false bs = some t := by
  rw [codec]
  dsimp only
  cases charset.decode? false bs <;> simp

/-- What is read is stored as the same bytes, but for a signature that was not there. -/
theorem store_of_read {name : String} (h : (charset.codec name).read none bs = .ok t)
    (hsigned : charset = utf8Signed → Utf8.signature <+: bs) :
    (charset.codec name).store t = .ok bs :=
  store_eq_ok.mpr (encode?_of_decode? (read_eq_ok.mp h) hsigned)

theorem keepsLines_codec (charset : Charset) (name : String) : (charset.codec name).KeepsLines := by
  have hnewline : ∀ charset ∈ all, charset.body? ['\n'] = some [10] := by decide +kernel
  apply Codec.keepsLines_of_append charset.mark charset.body?
  · intro t bs h
    exact encode?_eq_some.mp (store_eq_ok.mp h)
  · intro t u b h
    exact body?_append_eq_some.mp h
  · intro b h
    rw [hnewline charset (mem_all charset), Option.some.injEq] at h
    simp [← h]

end All

end Pruner.Charset

namespace Pruner.Utf16

def unitBytes (unit : Nat) : Bytes :=
  [.ofNat (unit % 256), .ofNat (unit / 256)]

theorem encode_eq (t : Text) : encode t = mark ++ (t.flatMap units).flatMap unitBytes := rfl

theorem unitsOf?_flatMap {us : List Nat} (h : ∀ u ∈ us, u < 0x10000) :
    unitsOf? false false (us.flatMap unitBytes) = some us := by
  induction us with
  | nil => rfl
  | cons u us ih =>
    rw [List.forall_mem_cons] at h
    have hlow : (UInt8.ofNat (u % 256)).toNat = u % 256 := Utf8.toNat_byte (by omega)
    have hhigh : (UInt8.ofNat (u / 256)).toNat = u / 256 := Utf8.toNat_byte (by omega)
    have hunit : u / 256 * 256 + u % 256 = u := by omega
    rw [List.flatMap_cons, unitBytes, List.cons_append, List.cons_append, List.nil_append, unitsOf?,
      ih h.2, hlow, hhigh]
    simp [hunit]

theorem units_lt {c : Char} {u : Nat} (h : u ∈ units c) : u < 0x10000 := by
  have hvalid : c.toNat < 0xD800 ∨ 0xDFFF < c.toNat ∧ c.toNat < 0x110000 := c.valid
  rw [units] at h
  split at h
  · rename_i hone
    rwa [List.mem_singleton.mp h]
  · simp only [List.mem_cons, List.not_mem_nil, or_false] at h
    omega

/-- A character is one unit that is no half of a pair, or a pair. -/
theorem charsOf?_units (c : Char) (us : List Nat) :
    charsOf? false (units c ++ us) = (charsOf? false us).map (c :: ·) := by
  have hvalid : c.toNat < 0xD800 ∨ 0xDFFF < c.toNat ∧ c.toNat < 0x110000 := c.valid
  rw [units]
  split
  · have hlead : isLead c.toNat = false := by
      simp only [isLead, Bool.and_eq_false_iff, decide_eq_false_iff_not]
      omega
    have htrail : isTrail c.toNat = false := by
      simp only [isTrail, Bool.and_eq_false_iff, decide_eq_false_iff_not]
      omega
    rw [List.singleton_append, charsOf?.eq_def]
    dsimp only
    rw [hlead, htrail, Char.ofNat_toNat]
    cases charsOf? false us <;> rfl
  · have hlead : isLead (0xD800 + (c.toNat - 0x10000) / 0x400) = true := by
      simp only [isLead, Bool.and_eq_true, decide_eq_true_eq]
      omega
    have htrail : isTrail (0xDC00 + (c.toNat - 0x10000) % 0x400) = true := by
      simp only [isTrail, Bool.and_eq_true, decide_eq_true_eq]
      omega
    have hchar : 0x10000 + (0xD800 + (c.toNat - 0x10000) / 0x400 - 0xD800) * 0x400 +
        (0xDC00 + (c.toNat - 0x10000) % 0x400 - 0xDC00) = c.toNat := by omega
    rw [List.cons_append, List.singleton_append, charsOf?, if_pos hlead]
    dsimp only
    rw [if_pos htrail, hchar, Char.ofNat_toNat]
    cases charsOf? false us <;> rfl

theorem charsOf?_flatMap (t : Text) : charsOf? false (t.flatMap units) = some t := by
  induction t with
  | nil => rfl
  | cons c t ih => rw [List.flatMap_cons, charsOf?_units, ih, Option.map_some]

theorem decode_encode (t : Text) : decode false (encode t) = .ok t := by
  have hunits : ∀ u ∈ t.flatMap units, u < 0x10000 := by
    intro u hu
    obtain ⟨c, -, hc⟩ := List.mem_flatMap.mp hu
    exact units_lt hc
  have hmarked : mark.isPrefixOf (encode t) = true :=
    List.isPrefixOf_iff_prefix.mpr (List.prefix_append ..)
  rw [decode, if_pos hmarked, encode_eq, List.drop_append_of_le_length (by decide), List.drop_eq_nil_of_le
    (by decide), List.nil_append, body, unitsOf?_flatMap hunits, Option.bind_some, charsOf?_flatMap]

theorem keepsLines_codec : codec.KeepsLines := by
  apply Codec.keepsLines_of_append mark fun t => some ((t.flatMap units).flatMap unitBytes)
  · intro t bs h
    exact ⟨_, rfl, (Except.ok.inj h).symm⟩
  · intro t u b h
    refine ⟨_, _, rfl, rfl, ?_⟩
    rw [← Option.some.inj h, List.flatMap_append, List.flatMap_append]
  · intro b h
    rw [← Option.some.inj h]
    decide

end Pruner.Utf16

namespace Pruner.Codecs

/-- What is stored in a codec is read back. -/
def ReadsBack (codecs : Codecs) : Prop :=
  ∀ name t bs, codecs.store name t = .ok bs → codecs.read name none bs = .ok t

variable {name : Text} {codec : Codec}

theorem exists_known_of_find? (h : builtin.find? name = some codec) :
    (∃ (charset : Charset) (name : String), codec = charset.codec name) ∨ codec = Utf16.codec := by
  obtain ⟨entry, hentry, rfl⟩ := Option.map_eq_some_iff.mp h
  have hmem := List.mem_of_find?_eq_some hentry
  simp only [known, List.mem_cons, List.not_mem_nil, or_false] at hmem
  rcases hmem with rfl | rfl | rfl | rfl | rfl | rfl | rfl
  · exact Or.inl ⟨_, _, rfl⟩
  · exact Or.inl ⟨_, _, rfl⟩
  · exact Or.inr rfl
  · exact Or.inl ⟨_, _, rfl⟩
  · exact Or.inl ⟨_, _, rfl⟩
  · exact Or.inl ⟨_, _, rfl⟩
  · exact Or.inl ⟨_, _, rfl⟩

theorem builtin_readsBack : builtin.ReadsBack := by
  intro name t bs h
  rw [store] at h
  rw [read]
  cases hfind : builtin.find? name with
  | none => simp [hfind] at h
  | some codec =>
    rw [hfind] at h
    dsimp only at h ⊢
    rcases exists_known_of_find? hfind with ⟨charset, name, rfl⟩ | rfl
    · exact Charset.read_eq_ok.mpr (Charset.decode?_of_encode? (Charset.store_eq_ok.mp h))
    · rw [← Except.ok.inj h]
      exact Utf16.decode_encode t

theorem builtin_keepsLines (h : builtin.find? name = some codec) : codec.KeepsLines := by
  rcases exists_known_of_find? h with ⟨charset, name, rfl⟩ | rfl
  · exact Charset.keepsLines_codec charset name
  · exact Utf16.keepsLines_codec

end Pruner.Codecs
