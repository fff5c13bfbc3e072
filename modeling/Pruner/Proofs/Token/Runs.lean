import Pruner.Proofs.Token.PassLine
import Pruner.Proofs.Token.Blocks

namespace Pruner.Token

open Pruner.Text

/-- A text that is empty or starts with a blank. -/
def Detached (u : Text) : Prop :=
  ∀ c ∈ u.head?, isBlank c = true

section Runs

variable {u : Text}

theorem Detached.head_ne {c d : Char} (h : Detached (c :: u)) (hd : isBlank d = false) :
    c ≠ d := by
  rintro rfl
  rw [h c rfl] at hd
  contradiction

theorem isHexDigit_of_isBlank {c : Char} (h : isBlank c = true) : isHexDigit c = false := by
  by_contra hhex
  simp only [isHexDigit, isDigit, Bool.not_eq_false, Bool.or_eq_true, Bool.and_eq_true,
    decide_eq_true_eq, Char.le_def, UInt32.le_iff_toNat_le] at hhex
  simp only [isBlank, Bool.or_eq_true, Bool.and_eq_true, decide_eq_true_eq, beq_iff_eq] at h
  have hnat : c.val.toNat = c.toNat := rfl
  simp only [hnat, Char.reduceVal, UInt32.reduceToNat] at hhex
  omega

/-- Digits of some base up to sixteen. -/
def AreDigits (p : Char → Bool) : Prop :=
  ∀ c, p c = true → isHexDigit c = true

theorem areDigits_zero : AreDigits (· == '0') := by
  intro c hc
  rw [beq_iff_eq.mp hc]
  rfl

theorem areDigits_binary : AreDigits isBinaryDigit := by
  intro c hc
  simp only [isBinaryDigit, Bool.or_eq_true, beq_iff_eq] at hc
  rcases hc with rfl | rfl <;> rfl

theorem areDigits_decimal : AreDigits isDigit := by
  intro c hc
  simp [isHexDigit, hc]

theorem areDigits_octal : AreDigits isOctalDigit := by
  intro c hc
  apply areDigits_decimal
  simp only [isOctalDigit, isDigit, Bool.and_eq_true, decide_eq_true_eq] at hc ⊢
  exact ⟨hc.1, Char.le_trans hc.2 (by decide)⟩

theorem AreDigits.eq_false {p : Char → Bool} (hp : AreDigits p) {c : Char}
    (hc : isHexDigit c = false) : p c = false := by
  by_contra hpc
  rw [hp c (by simpa using hpc)] at hc
  contradiction

/-- A run of digits neither starts in nor goes on to a blank. -/
theorem digitRun_append {p : Char → Bool} (hp : AreDigits p) (hu : Detached u) (t : Text) :
    digitRun p (t ++ u) = digitRun p t := by
  have hline : p '_' = false := hp.eq_false (by decide)
  fun_induction digitRun p t with
  | case1 c cs hc ih => rw [List.cons_append, List.cons_append, digitRun, if_pos hc, ih]
  | case2 c cs hc => rw [List.cons_append, List.cons_append, digitRun, if_neg hc]
  | case3 c cs hopen hc ih =>
    have hne : c ≠ '_' := by
      rintro rfl
      simp [hline] at hc
    rw [List.cons_append, digitRun, if_pos hc, ih]
    rintro d ds rfl
    exact absurd rfl hne
  | case4 c cs hopen hc =>
    rw [List.cons_append]
    unfold digitRun
    split
    · rename_i d ds hcons
      obtain ⟨rfl, hrest⟩ := List.cons.inj hcons
      -- An underscore at the end of the text is followed by a blank.
      cases cs with
      | nil =>
        obtain rfl : u = d :: ds := hrest
        rw [hp.eq_false (isHexDigit_of_isBlank (hu d rfl))]
        rfl
      | cons e es => exact absurd rfl (hopen e es rfl)
    · rename_i hcons
      obtain ⟨rfl, -⟩ := List.cons.inj hcons
      rw [if_neg hc]
    · rfl
  | case5 =>
    cases u with
    | nil => rfl
    | cons c cs =>
      have hdigit : p c = false := hp.eq_false (isHexDigit_of_isBlank (hu c rfl))
      rw [List.nil_append, digitRun, if_neg (by simp [hdigit])]
      rintro d ds rfl
      exact absurd rfl (hu.head_ne (by decide))

theorem decimalRun_append (hu : Detached u) (t : Text) :
    decimalRun (t ++ u) = decimalRun t := by
  cases t with
  | nil =>
    cases u with
    | nil => rfl
    | cons c cs =>
      rw [List.nil_append, decimalRun, decimalRun, isDigit_of_isBlank (hu c rfl)]
      rfl
  | cons c cs =>
    rw [List.cons_append, decimalRun, decimalRun,
      digitRun_append areDigits_decimal hu]

theorem imaginaryRun_append (hu : Detached u) (t : Text) :
    imaginaryRun (t ++ u) = imaginaryRun t := by
  cases t with
  | nil =>
    cases u with
    | nil => rfl
    | cons c cs =>
      have hsmall : c ≠ 'j' := hu.head_ne (by decide)
      have hlarge : c ≠ 'J' := hu.head_ne (by decide)
      simp [imaginaryRun, hsmall, hlarge]
  | cons c cs => rfl

theorem exponentRun_append (hu : Detached u) (t : Text) :
    exponentRun (t ++ u) = exponentRun t := by
  cases t with
  | nil =>
    cases u with
    | nil => rfl
    | cons c cs =>
      have hsmall : c ≠ 'e' := hu.head_ne (by decide)
      have hlarge : c ≠ 'E' := hu.head_ne (by decide)
      simp [exponentRun, hsmall, hlarge]
  | cons e t =>
    cases t with
    | nil =>
      cases u with
      | nil => rfl
      | cons c cs =>
        have hplus : c ≠ '+' := hu.head_ne (by decide)
        have hminus : c ≠ '-' := hu.head_ne (by decide)
        have hzero : decimalRun (c :: cs) = 0 := decimalRun_append hu []
        simp [exponentRun, hplus, hminus, hzero]
    | cons s ds =>
      have hall : decimalRun (s :: (ds ++ u)) = decimalRun (s :: ds) :=
        decimalRun_append hu (s :: ds)
      simp only [List.cons_append, exponentRun, decimalRun_append hu, hall]

theorem integerRun_of_ne_zero {c : Char} (hc : c ≠ '0') (cs : Text) :
    integerRun (c :: cs) = decimalRun (c :: cs) := by
  unfold integerRun
  split
  · rename_i hcons
    exact absurd (List.cons.inj hcons).1 hc
  · simp [hc]

theorem integerRun_append (hu : Detached u) (t : Text) :
    integerRun (t ++ u) = integerRun t := by
  cases t with
  | nil =>
    cases u with
    | nil => rfl
    | cons c cs =>
      rw [List.nil_append, integerRun_of_ne_zero (hu.head_ne (by decide))]
      exact decimalRun_append hu []
  | cons c t =>
    by_cases hc : c = '0'
    · subst hc
      cases t with
      | nil =>
        cases u with
        | nil => rfl
        | cons b ds =>
          have hbase : b ∉ ['x', 'X', 'b', 'B', 'o', 'O'] := not_mem_of_all (hu b rfl) (by decide)
          have hzero : digitRun (· == '0') (b :: ds) = 0 := digitRun_append areDigits_zero hu []
          simp_all [integerRun]
      | cons b ds =>
        have hzeros : digitRun (· == '0') (b :: (ds ++ u)) = digitRun (· == '0') (b :: ds) :=
          digitRun_append areDigits_zero hu (b :: ds)
        have hhex : digitRun isHexDigit (ds ++ u) = digitRun isHexDigit ds :=
          digitRun_append (fun _ => id) hu ds
        have hbinary : digitRun isBinaryDigit (ds ++ u) = digitRun isBinaryDigit ds :=
          digitRun_append areDigits_binary hu ds
        have hoctal : digitRun isOctalDigit (ds ++ u) = digitRun isOctalDigit ds :=
          digitRun_append areDigits_octal hu ds
        simp only [List.cons_append, integerRun, hzeros, hhex, hbinary, hoctal]
    · rw [List.cons_append, integerRun_of_ne_zero hc, integerRun_of_ne_zero hc]
      exact decimalRun_append hu (c :: t)

theorem digitRun_le (p : Char → Bool) (t : Text) : digitRun p t ≤ t.length := by
  fun_induction digitRun p t with
  | case1 c cs hc ih =>
    simp only [List.length_cons]
    omega
  | case3 c cs hopen hc ih =>
    simp only [List.length_cons]
    omega
  | _ => omega

theorem decimalRun_le (t : Text) : decimalRun t ≤ t.length := by
  cases t with
  | nil => rfl
  | cons c cs =>
    have hrest := digitRun_le isDigit cs
    rw [decimalRun, List.length_cons]
    split <;> omega

theorem exponentRun_le (t : Text) : exponentRun t ≤ t.length := by
  unfold exponentRun
  split
  · omega
  · rename_i e cs
    have hcs := decimalRun_le cs
    split
    · split
      · omega
      · rename_i s ds
        have hds := decimalRun_le ds
        simp only [List.length_cons] at hcs ⊢
        split <;> split <;> omega
    · omega

theorem imaginaryRun_le (t : Text) : imaginaryRun t ≤ t.length := by
  cases t with
  | nil => rfl
  | cons c cs =>
    unfold imaginaryRun
    split <;> simp

theorem integerRun_le (t : Text) : integerRun t ≤ t.length := by
  cases t with
  | nil => rfl
  | cons c t =>
    by_cases hc : c = '0'
    · subst hc
      cases t with
      | nil => rfl
      | cons b ds =>
        have hzeros := digitRun_le (· == '0') (b :: ds)
        have hhex := digitRun_le isHexDigit ds
        have hbinary := digitRun_le isBinaryDigit ds
        have hoctal := digitRun_le isOctalDigit ds
        simp only [List.length_cons] at hzeros
        simp only [integerRun, List.length_cons]
        split
        · split <;> omega
        · split
          · split <;> omega
          · split
            · split <;> omega
            · omega
    · rw [integerRun_of_ne_zero hc]
      exact decimalRun_le _

theorem numberRun_le (t : Text) : numberRun t ≤ t.length := by
  have hwhole := decimalRun_le t
  unfold numberRun
  dsimp only
  split
  · rename_i fraction hfraction
    have hpart := decimalRun_le fraction
    have hlength := congrArg List.length hfraction
    simp only [List.length_drop, List.length_cons] at hlength
    split
    · omega
    · have hexponent := exponentRun_le (t.drop (decimalRun t + 1 + decimalRun fraction))
      have hunit := imaginaryRun_le (t.drop (decimalRun t + 1 + decimalRun fraction +
        exponentRun (t.drop (decimalRun t + 1 + decimalRun fraction))))
      rw [List.length_drop] at hexponent hunit
      omega
  · split
    · omega
    · split
      · rename_i himaginary
        have hunit := imaginaryRun_le (t.drop (decimalRun t))
        rw [List.length_drop] at hunit
        omega
      · split
        · exact integerRun_le t
        · have hexponent := exponentRun_le (t.drop (decimalRun t))
          have hunit := imaginaryRun_le (t.drop (decimalRun t +
            exponentRun (t.drop (decimalRun t))))
          rw [List.length_drop] at hexponent hunit
          omega

theorem numberRun_of_point {t fraction : Text} (h : t.drop (decimalRun t) = '.' :: fraction) :
    numberRun t =
      let head := decimalRun t + 1 + decimalRun fraction
      let exponent := exponentRun (t.drop head)
      if decimalRun t = 0 ∧ decimalRun fraction = 0 then 0
      else head + exponent + imaginaryRun (t.drop (head + exponent)) := by
  unfold numberRun
  dsimp only
  rw [h]
  rfl

theorem numberRun_of_not_point {t : Text} (h : (t.drop (decimalRun t)).head? ≠ some '.') :
    numberRun t =
      let rest := t.drop (decimalRun t)
      if decimalRun t = 0 then 0
      else if imaginaryRun rest = 1 then decimalRun t + 1
      else if exponentRun rest = 0 then integerRun t
      else decimalRun t + exponentRun rest +
        imaginaryRun (t.drop (decimalRun t + exponentRun rest)) := by
  unfold numberRun
  dsimp only
  split
  · rename_i fraction hfraction
    rw [hfraction] at h
    exact absurd rfl h
  · rfl

theorem numberRun_append (hu : Detached u) (t : Text) : numberRun (t ++ u) = numberRun t := by
  have hdrop {n : Nat} (hn : n ≤ t.length) : (t ++ u).drop n = t.drop n ++ u :=
    List.drop_append_of_le_length hn
  have hwhole := decimalRun_le t
  have hrest : (t ++ u).drop (decimalRun (t ++ u)) = t.drop (decimalRun t) ++ u := by
    rw [decimalRun_append hu, hdrop hwhole]
  by_cases hpoint : (t.drop (decimalRun t)).head? = some '.'
  · obtain ⟨fraction, hfraction⟩ := List.head?_eq_some_iff.mp hpoint
    have hpart := decimalRun_le fraction
    have hlength := congrArg List.length hfraction
    simp only [List.length_drop, List.length_cons] at hlength
    have hexponent := exponentRun_le (t.drop (decimalRun t + 1 + decimalRun fraction))
    rw [List.length_drop] at hexponent
    have hrest' : (t ++ u).drop (decimalRun (t ++ u)) = '.' :: (fraction ++ u) := by
      rw [hrest, hfraction, List.cons_append]
    rw [numberRun_of_point hfraction, numberRun_of_point hrest']
    simp only [decimalRun_append hu]
    rw [hdrop (by omega), exponentRun_append hu, hdrop (by omega), imaginaryRun_append hu]
  · have hother : ((t ++ u).drop (decimalRun (t ++ u))).head? ≠ some '.' := by
      rw [hrest]
      cases htail : t.drop (decimalRun t) with
      | nil =>
        intro hhead
        have hblank : isBlank '.' = true := hu '.' hhead
        revert hblank
        decide
      | cons c cs =>
        rw [htail] at hpoint
        exact hpoint
    have hexponent := exponentRun_le (t.drop (decimalRun t))
    rw [List.length_drop] at hexponent
    rw [numberRun_of_not_point hpoint, numberRun_of_not_point hother]
    dsimp only
    rw [hrest, decimalRun_append hu, exponentRun_append hu, imaginaryRun_append hu,
      integerRun_append hu, hdrop (by omega), imaginaryRun_append hu]

/-- Operators have no blanks, so that one of `n` characters ends before a blank. -/
theorem contains_take_append {table : List Text} {n : Nat} (hu : Detached u) (t : Text)
    (htable : table.all (fun op => op.length == n && op.all (!isBlank ·)) = true) :
    table.contains ((t ++ u).take n) = table.contains (t.take n) := by
  by_cases hlong : n ≤ t.length
  · rw [List.take_append_of_le_length hlong]
  · cases u with
    | nil => rw [List.append_nil]
    | cons c cs =>
      have hblank : isBlank c = true := hu c rfl
      have hop {op : Text} (h : op ∈ table) : op.length = n ∧ ∀ d ∈ op, isBlank d = false := by
        simpa using List.all_eq_true.mp htable op h
      have hnot : (t ++ c :: cs).take n ∉ table := by
        intro hmem
        have hc : c ∈ (t ++ c :: cs).take n := by
          rw [List.take_append, List.take_cons (by omega)]
          simp
        rw [(hop hmem).2 c hc] at hblank
        contradiction
      have hnot' : t.take n ∉ table := by
        intro hmem
        have hlength := (hop hmem).1
        rw [List.length_take] at hlength
        omega
      rw [Bool.eq_iff_iff, List.contains_iff_mem, List.contains_iff_mem]
      exact iff_of_false hnot hnot'

theorem operatorRun_append (hu : Detached u) {t : Text} (ht : t ≠ []) :
    operatorRun (t ++ u) = operatorRun t := by
  rw [operatorRun, operatorRun, contains_take_append hu t (by decide),
    contains_take_append hu t (by decide), List.head?_append_of_ne_nil t ht]

theorem operatorRun_le (t : Text) : operatorRun t ≤ t.length := by
  have hlong : longOperators.all (·.length == 3) = true := by decide
  have htwo : twoCharOperators.all (·.length == 2) = true := by decide
  unfold operatorRun
  split
  · rename_i h
    have hlength := List.all_eq_true.mp hlong _ (List.contains_iff_mem.mp h)
    rw [beq_iff_eq, List.length_take] at hlength
    omega
  · split
    · rename_i h
      have hlength := List.all_eq_true.mp htwo _ (List.contains_iff_mem.mp h)
      rw [beq_iff_eq, List.length_take] at hlength
      omega
    · split
      · rename_i h
        cases t with
        | nil => simp at h
        | cons c cs => simp
      · omega

theorem stringMarkRun_append (hu : Detached u) {t : Text} (ht : t ≠ []) :
    stringMarkRun (t ++ u) = stringMarkRun t := by
  cases u with
  | nil => rw [List.append_nil]
  | cons d ds =>
    have hd : isBlank d = true := hu d rfl
    have hquote : isQuote d = false := isQuote_of_isBlank hd
    have hletter : d ∉ ['b', 'r', 'f'] := not_mem_of_all hd (by decide)
    match t with
    | [a] =>
      cases ds with
      | nil => simp [stringMarkRun, hquote]
      | cons e es => simp_all [stringMarkRun, lower_of_isBlank hd]
    | [a, b] => simp [stringMarkRun, hquote]
    | a :: b :: c :: rest => rfl

theorem takeWhile_isWord_append (hu : Detached u) (t : Text) :
    (t ++ u).takeWhile isWord = t.takeWhile isWord := by
  induction t with
  | nil =>
    cases u with
    | nil => rfl
    | cons c cs =>
      rw [List.nil_append, List.takeWhile_cons, isWord_eq_false_of_isBlank (hu c rfl)]
      rfl
  | cons c cs ih => rw [List.cons_append, List.takeWhile_cons, List.takeWhile_cons, ih]

theorem isPrefixOf_append (hu : Detached u) {mark : Text} (hmark : ∀ c ∈ mark, isBlank c = false)
    (t : Text) : mark.isPrefixOf (t ++ u) = mark.isPrefixOf t := by
  induction t generalizing mark with
  | nil =>
    cases mark with
    | nil => simp
    | cons c cs =>
      cases u with
      | nil => rfl
      | cons d ds =>
        have hne : c ≠ d := (hu.head_ne (hmark c (by simp))).symm
        simp [List.isPrefixOf_cons_cons, hne]
  | cons d ds ih =>
    cases mark with
    | nil => simp
    | cons c cs =>
      rw [List.cons_append, List.isPrefixOf_cons_cons, List.isPrefixOf_cons_cons,
        ih fun e he => hmark e (List.mem_cons_of_mem c he)]

end Runs

section Strings

variable {quote : Char} {t u : Text}

theorem quotedTail_cons {c : Char} (hc : c ≠ '\\') (cs : Text) :
    quotedTail quote (c :: cs) =
      if c = quote then some (true, 1)
      else if c = '\n' then none
      else (quotedTail quote cs).map fun (closed, n) => (closed, n + 1) := by
  rw [quotedTail] <;> simp_all

theorem closingRun_cons {c : Char} (hc : c ≠ '\\') (cs : Text) :
    closingRun true quote (c :: cs) =
      if c = quote ∧ [quote, quote].isPrefixOf cs then some 3
      else (closingRun true quote cs).map (· + 1) := by
  rw [closingRun]
  all_goals simp_all
  grind

theorem quotedTail_eq_none (hslash : '\\' ∉ t) (hquote : quote ∉ t) : quotedTail quote t = none := by
  induction t with
  | nil => rfl
  | cons c cs ih =>
    rw [List.mem_cons, not_or] at hslash hquote
    rw [quotedTail_cons (Ne.symm hslash.1), if_neg (Ne.symm hquote.1), ih hslash.2 hquote.2]
    simp

theorem quotedTail_isSome (hslash : '\\' ∉ t) (hline : '\n' ∉ t) (hquote : quote ∈ t) :
    ∃ n ≤ t.length, quotedTail quote t = some (true, n) := by
  induction t with
  | nil => simp at hquote
  | cons c cs ih =>
    rw [List.mem_cons, not_or] at hslash hline
    rw [quotedTail_cons (Ne.symm hslash.1), if_neg (Ne.symm hline.1)]
    by_cases hc : c = quote
    · exact ⟨1, by simp, if_pos hc⟩
    · obtain ⟨n, hn, htail⟩ := ih hslash.2 hline.2 (by simpa [Ne.symm hc] using hquote)
      refine ⟨n + 1, by simpa using hn, ?_⟩
      rw [if_neg hc, htail]
      rfl

/-- A string in single quotes is closed by the first quote. -/
theorem quotedTail_append (hslash : '\\' ∉ t) (hslash' : '\\' ∉ u) (hline : '\n' ∉ t)
    (hquote : quote ∈ t ∨ quote ∉ u) : quotedTail quote (t ++ u) = quotedTail quote t := by
  induction t with
  | nil => exact quotedTail_eq_none hslash' (hquote.resolve_left (by simp))
  | cons c cs ih =>
    rw [List.mem_cons, not_or] at hslash hline
    rw [List.cons_append, quotedTail_cons (Ne.symm hslash.1), quotedTail_cons (Ne.symm hslash.1)]
    by_cases hc : c = quote
    · rw [if_pos hc, if_pos hc]
    · rw [ih hslash.2 hline.2 (hquote.imp_left (by simp [Ne.symm hc]))]

theorem closingRun_le {n : Nat} (hslash : '\\' ∉ t) (h : closingRun true quote t = some n) :
    n ≤ t.length := by
  induction t generalizing n with
  | nil => simp [closingRun] at h
  | cons c cs ih =>
    rw [List.mem_cons, not_or] at hslash
    rw [closingRun_cons (Ne.symm hslash.1)] at h
    rw [List.length_cons]
    split at h
    · rename_i hclose
      have hlength := (List.isPrefixOf_iff_prefix.mp hclose.2).length_le
      simp only [List.length_cons, List.length_nil] at hlength
      rw [← Option.some.inj h]
      omega
    · obtain ⟨k, hk, rfl⟩ := Option.map_eq_some_iff.mp h
      have hle := ih hslash.2 hk
      omega

theorem isBlank_of_isQuote {c : Char} (h : isQuote c = true) : isBlank c = false := by
  by_contra hblank
  rw [isQuote_of_isBlank (by simpa using hblank)] at h
  contradiction

/-- A string in triple quotes ends before a blank or goes on behind it. -/
theorem closingRun_append (hu : Detached u) (hq : isQuote quote = true) (hslash : '\\' ∉ t) :
    closingRun true quote (t ++ u) =
      (closingRun true quote t).or ((closingRun true quote u).map (t.length + ·)) := by
  induction t with
  | nil => simp [closingRun]
  | cons c cs ih =>
    rw [List.mem_cons, not_or] at hslash
    rw [List.cons_append, closingRun_cons (Ne.symm hslash.1), closingRun_cons (Ne.symm hslash.1),
      isPrefixOf_append hu (by simp [isBlank_of_isQuote hq]), ih hslash.2]
    split
    · rfl
    · cases closingRun true quote cs with
      | some n => rfl
      | none =>
        cases closingRun true quote u with
        | some n => simp [Nat.add_right_comm]
        | none => rfl

/-- Three quotes after a blank close a string. -/
theorem closingRun_quotes (hq : isQuote quote = true) (v : Text) :
    closingRun true quote (' ' :: quote :: quote :: quote :: v) = some 4 := by
  have hblank : ' ' ≠ quote := by
    rintro rfl
    contradiction
  have hslash : quote ≠ '\\' := by
    rintro rfl
    contradiction
  rw [closingRun_cons (by decide), closingRun_cons hslash]
  simp [hblank]

/-- A marked string: some letters and a quote. -/
theorem stringMarkRun_split {n : Nat} (h : stringMarkRun t = some n) :
    ∃ letters q rest, t = letters ++ q :: rest ∧ letters.length = n ∧ isQuote q = true ∧
      ∀ c ∈ letters, isQuote c = false := by
  match t with
  | [] => simp [stringMarkRun] at h
  | a :: rest =>
    by_cases ha : isQuote a = true
    · have hn : n = 0 := by simpa [stringMarkRun, ha, eq_comm] using h
      exact ⟨[], a, rest, rfl, hn.symm, ha, by simp⟩
    · match rest with
      | [] => simp [stringMarkRun, ha] at h
      | b :: rest =>
        by_cases hb : isQuote b = true
        · have hn : n = 1 := by
            simp only [stringMarkRun, ha, hb] at h
            simp_all
          exact ⟨[a], b, rest, rfl, hn.symm, hb, by simpa using ha⟩
        · match rest with
          | [] => simp [stringMarkRun, ha, hb] at h
          | c :: rest =>
            have hc : isQuote c = true ∧ n = 2 := by
              simp only [stringMarkRun, ha, hb] at h
              simp_all
            exact ⟨[a, b], c, rest, rfl, hc.2.symm, hc.1, by simp [ha, hb]⟩

end Strings

end Pruner.Token
