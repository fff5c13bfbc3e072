import Pruner.Text.Basic

/-!
Floating-point numbers of 53 bits as exact values.

A finite number is a sign, a mantissa and a power of two. `ofDecimal` takes the nearest number to
a decimal, a half going to the even mantissa, and `toText` writes the fewest digits that read back
to the same number.
-/
namespace Pruner

inductive Binary64
  | finite (negative : Bool) (mantissa : Nat) (exponent : Int)
  | infinite (negative : Bool)
  deriving DecidableEq, Repr

namespace Binary64

def minExponent : Int := -1074

def zero : Binary64 := .finite false 0 minExponent

def power (base exponent : Nat) : Nat :=
  Nat.pow base exponent

def roundDiv (num den : Nat) : Nat :=
  let q := num / den
  let r := num % den
  if 2 * r > den || (2 * r == den && q % 2 == 1) then q + 1 else q

def ofQuotient (num den : Nat) : Binary64 :=
  let guess : Int := (Nat.log2 num : Int) - (Nat.log2 den : Int) - 53
  let scaled (e : Int) : Nat × Nat :=
    if e ≥ 0 then (num, den * power 2 e.toNat) else (num * power 2 (-e).toNat, den)
  let (n, d) := scaled guess
  let fitted := if n / d ≥ power 2 53 then guess + 1 else guess
  let e := max fitted minExponent
  let (n, d) := scaled e
  let m := roundDiv n d
  let (m, e) := if m = power 2 53 then (power 2 52, e + 1) else (m, e)
  if e > 971 then .infinite false else .finite false m e

def decimalLength (n : Nat) : Nat := (Nat.toDigits 10 n).length

def ofDecimal (digits : Nat) (scale : Int) : Binary64 :=
  if digits = 0 then zero
  else
    let magnitude : Int := decimalLength digits + scale
    if magnitude > 310 then .infinite false
    else if magnitude < -330 then zero
    else if scale ≥ 0 then ofQuotient (digits * power 10 scale.toNat) 1
    else ofQuotient digits (power 10 (-scale).toNat)

def neg : Binary64 → Binary64
  | .finite s m e => .finite (!s) m e
  | .infinite s => .infinite (!s)

def signed (negative : Bool) (mantissa : Nat) : Int :=
  if negative then -mantissa else mantissa

def same : Binary64 → Binary64 → Bool
  | .finite s m e, .finite s' m' e' =>
    let low := min e e'
    signed s m * (power 2 (e - low).toNat : Int) == signed s' m' * (power 2 (e' - low).toNat : Int)
  | .infinite s, .infinite s' => s == s'
  | _, _ => false

def sameInt : Binary64 → Int → Bool
  | .finite s m e, n =>
    if e ≥ 0 then signed s m * (power 2 e.toNat : Int) == n
    else signed s m == n * (power 2 (-e).toNat : Int)
  | .infinite _, _ => false

def readDecimal? (t : Text) : Option (Nat × Int) :=
  let isDigit (c : Char) : Bool := '0' ≤ c && c ≤ '9'
  let value (ds : Text) : Nat := ds.foldl (fun n c => n * 10 + (c.toNat - 48)) 0
  let whole := t.takeWhile isDigit
  let rest := t.dropWhile isDigit
  let (fraction, rest) := match rest with
    | '.' :: cs => (cs.takeWhile isDigit, cs.dropWhile isDigit)
    | _ => ([], rest)
  if whole.isEmpty && fraction.isEmpty then none
  else
    let digits := value (whole ++ fraction)
    match rest with
    | [] => some (digits, -fraction.length)
    | e :: cs =>
      if e == 'e' || e == 'E' then
        let (negative, ds) : Bool × Text := match cs with
          | '-' :: ds => (true, ds)
          | '+' :: ds => (false, ds)
          | ds => (false, ds)
        if ds.isEmpty || !ds.all isDigit then none
        else
          let shift : Int := if negative then -(value ds : Int) else value ds
          some (digits, shift - fraction.length)
      else none

def ofText? (t : Text) : Option Binary64 :=
  let (negative, body) : Bool × Text := match t with
    | '-' :: cs => (true, cs)
    | cs => (false, cs)
  let found : Option Binary64 :=
    if body == "inf".toList then some (.infinite false)
    else (readDecimal? body).map fun (digits, scale) => ofDecimal digits scale
  found.map fun x => if negative then x.neg else x

def decimalExponent (num den : Nat) : Int :=
  if num ≥ den then (decimalLength (num / den) : Int) - 1
  else
    let below := ((List.range 400).find? fun j => num * power 10 j ≥ den).getD 400
    (0 : Int) - below

/-- The nearest decimal of `n` digits that reads back as `x`, where `x` is `num / den`. -/
def decimalOf? (x : Binary64) (num den n : Nat) : Option (Nat × Int) :=
  let scale : Int := decimalExponent num den - (n - 1)
  let (a, b) := if scale ≥ 0 then (num, den * power 10 scale.toNat)
    else (num * power 10 (-scale).toNat, den)
  let low := a / b
  let nearest := roundDiv a b
  let other := if nearest = low then low + 1 else low
  if ofDecimal nearest scale == x then some (nearest, scale)
  else if ofDecimal other scale == x then some (other, scale)
  else none

def shortest (mantissa : Nat) (exponent : Int) : Nat × Int :=
  if mantissa = 0 then (0, 0)
  else
    let (num, den) :=
      if exponent ≥ 0 then (mantissa * power 2 exponent.toNat, 1)
      else (mantissa, power 2 (-exponent).toNat)
    let x := Binary64.finite false mantissa exponent
    ((List.range 17).findSome? fun n => decimalOf? x num den (n + 1)).getD (mantissa, exponent)

def dropZeros : Nat → Nat → Int → Nat × Int
  | 0, digits, scale => (digits, scale)
  | fuel + 1, digits, scale =>
    if digits ≠ 0 ∧ digits % 10 = 0 then dropZeros fuel (digits / 10) (scale + 1)
    else (digits, scale)

/-- Positional between `1e-4` and `1e16`, with at least one digit after the point; otherwise with
an exponent of at least two digits. -/
def digitsText (digits : Nat) (scale : Int) : Text :=
  let ds := Nat.toDigits 10 digits
  let point : Int := ds.length + scale
  if digits = 0 then "0.0".toList
  else if -4 < point ∧ point ≤ 16 then
    if point ≤ 0 then "0.".toList ++ List.replicate (-point).toNat '0' ++ ds
    else if scale ≥ 0 then ds ++ List.replicate scale.toNat '0' ++ ".0".toList
    else ds.take point.toNat ++ ['.'] ++ ds.drop point.toNat
  else
    let e := point - 1
    let es := Nat.toDigits 10 e.natAbs
    let es := if es.length < 2 then '0' :: es else es
    let tail := if ds.length > 1 then '.' :: ds.drop 1 else []
    ds.take 1 ++ tail ++ ['e', if e < 0 then '-' else '+'] ++ es

def toText : Binary64 → Text
  | .infinite s => if s then "-inf".toList else "inf".toList
  | .finite s m e =>
    let (digits, scale) := shortest m e
    let (digits, scale) := dropZeros 17 digits scale
    (if s then ['-'] else []) ++ digitsText digits scale

end Binary64

end Pruner
