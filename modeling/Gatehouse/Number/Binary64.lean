import Gatehouse.Text.Numeral

/-!
# Binary floating point

A finite number of the 64 bit format is a mantissa below 2 ^ 53 times a power of two from 2 ^ -1074 on. A
decimal numeral is read as the nearest such number, halfway cases going to the even mantissa; all of it
is exact arithmetic on whole numbers.
-/

namespace Gatehouse

inductive Binary64 where
  | finite (negative : Bool) (mantissa : Nat) (exponent : Int)
  | infinite (negative : Bool)
  | nan
deriving DecidableEq, Repr

namespace Binary64

open Text

/-- The quotient rounded to the nearest whole number, halves to the even one. -/
def roundHalfEven (num den : Nat) : Nat :=
  let q := num / den
  let r := num % den
  if 2 * r < den then q
  else if den < 2 * r then q + 1
  else q + q % 2

/-- The quotient by a power of two, as a pair of whole numbers. -/
def scaled (num den : Nat) (exponent : Int) : Nat × Nat :=
  if 0 ≤ exponent then (num, den * Nat.pow 2 exponent.toNat) else (num * Nat.pow 2 (-exponent).toNat, den)

/-- The number nearest to a positive ratio. -/
def ofRatio (negative : Bool) (num den : Nat) : Binary64 :=
  let guess : Int := max (-1074) ((num.log2 : Int) - den.log2 - 53)
  let (n, d) := scaled num den guess
  let exponent := if n / d < Nat.pow 2 53 then guess else guess + 1
  let (n, d) := scaled num den exponent
  let mantissa := roundHalfEven n d
  let (mantissa, exponent) :=
    if mantissa = Nat.pow 2 53 then (Nat.pow 2 52, exponent + 1) else (mantissa, exponent)
  if 971 < exponent then .infinite negative else .finite negative mantissa exponent

/-- The number nearest to a decimal. Decimals far outside the range are recognised by their size. -/
def ofDecimal (negative : Bool) (digits : Nat) (exponent : Int) : Binary64 :=
  let size : Int := exponent + (decimal digits).length
  if digits = 0 ∨ size < -330 then .finite negative 0 (-1074)
  else if 310 < size then .infinite negative
  else if 0 ≤ exponent then ofRatio negative (digits * Nat.pow 10 exponent.toNat) 1
  else ofRatio negative digits (Nat.pow 10 (-exponent).toNat)

/-- An exponent after its letter: a sign if any and digits. -/
def exponent? : List Char → Option Int
  | '-' :: ds => (digits? ds).map fun n => -(n : Int)
  | '+' :: ds => (digits? ds).map fun n => (n : Int)
  | ds => (digits? ds).map fun n => (n : Int)

/-- Digits with at most one point, at least one digit, and an exponent if any. -/
def unsigned? (negative : Bool) (cs : List Char) : Option Binary64 := do
  let whole := cs.takeWhile isDigit
  let rest := cs.drop whole.length
  let (fraction, rest) :=
    match rest with
    | '.' :: rest => (rest.takeWhile isDigit, rest.dropWhile isDigit)
    | _ => ([], rest)
  let digits ← digits? (whole ++ fraction)
  let exponent ←
    match rest with
    | [] => some 0
    | e :: rest => if e = 'e' ∨ e = 'E' then exponent? rest else none
  return ofDecimal negative digits (exponent - fraction.length)

/-- A number without its sign: digits, or one of the names of infinity and of no number. -/
def magnitude? (negative : Bool) (cs : List Char) : Option Binary64 :=
  let word := cs.map Char.toLower
  if word = "inf".toList ∨ word = "infinity".toList then some (.infinite negative)
  else if word = "nan".toList then some .nan
  else unsigned? negative cs

def ofChars? : List Char → Option Binary64
  | '-' :: cs => magnitude? true cs
  | '+' :: cs => magnitude? false cs
  | cs => magnitude? false cs

def isZero : Binary64 → Bool
  | finite _ m _ => m == 0
  | _ => false

/-- The nearest whole number, halves away from zero, kept between 0 and 2 ^ 64 - 1. -/
def toUInt64 : Binary64 → UInt64
  | finite true _ _ => 0
  | finite false m e =>
    let n := if 0 ≤ e then m * Nat.pow 2 e.toNat
      else (m * 2 + Nat.pow 2 (-e).toNat) / Nat.pow 2 ((-e).toNat + 1)
    UInt64.ofNat (min n (Nat.pow 2 64 - 1))
  | infinite negative => if negative then 0 else UInt64.ofNat (Nat.pow 2 64 - 1)
  | nan => 0

end Binary64

end Gatehouse
