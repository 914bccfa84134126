import Gatehouse.Number.Binary64

/-!
# The shortest decimal of a binary number

A number is written with the fewest digits that read back as the same number, and among those with the
digits nearest to it. On the grid of decimals with a given count of digits only the two neighbours of
the number matter: if any point of the grid reads back, one of them does.
-/

namespace Gatehouse.Binary64

open Gatehouse.Text

/-- A positive ratio with the ends of the interval that rounds to it, over one denominator. -/
structure Interval where
  low : Nat
  mid : Nat
  high : Nat
  den : Nat
  closed : Bool

/-- The decimals that read as `mantissa * 2 ^ exponent`. Below a power of two the neighbour is nearer. -/
def interval (mantissa : Nat) (exponent : Int) : Interval :=
  let unit := if 2 ≤ exponent then Nat.pow 2 (exponent - 2).toNat else 1
  let below := if mantissa = Nat.pow 2 52 ∧ -1074 < exponent then 1 else 2
  { low := (4 * mantissa - below) * unit
    mid := 4 * mantissa * unit
    high := (4 * mantissa + 2) * unit
    den := if 2 ≤ exponent then 1 else Nat.pow 2 (2 - exponent).toNat
    closed := mantissa % 2 == 0 }

/-- The decimal `digits * 10 ^ exponent` lies in the interval. -/
def Interval.holds (i : Interval) (digits : Nat) (exponent : Int) : Bool :=
  let (n, d) := if 0 ≤ exponent then (digits * Nat.pow 10 exponent.toNat, 1)
    else (digits, Nat.pow 10 (-exponent).toNat)
  let x := n * i.den
  if i.closed then i.low * d ≤ x && x ≤ i.high * d else i.low * d < x && x < i.high * d

/-- Twice the number exceeds the sum of the grid points `digits` and `digits + 1`, or equals it. -/
def Interval.nearerAbove (i : Interval) (digits : Nat) (exponent : Int) : Bool :=
  let (n, d) :=
    if 0 ≤ exponent then ((2 * digits + 1) * Nat.pow 10 exponent.toNat, 1)
    else (2 * digits + 1, Nat.pow 10 (-exponent).toNat)
  n * i.den ≤ 2 * i.mid * d

def Interval.floorAt (i : Interval) (exponent : Int) : Nat :=
  if 0 ≤ exponent then i.mid / (i.den * Nat.pow 10 exponent.toNat)
  else i.mid * Nat.pow 10 (-exponent).toNat / i.den

/-- The place of the first digit: the number lies from 10 ^ (k - 1) on and below 10 ^ k. -/
def Interval.magnitude (i : Interval) : Int :=
  let whole := i.mid / i.den
  if whole ≠ 0 then (decimal whole).length
  else go 1 330
where
  /-- The first power of ten, from `j` on, that lifts the number to 1 or more. -/
  go (j : Nat) : Nat → Int
    | 0 => 1 - (j : Int)
    | fuel + 1 => if i.floorAt (-(j : Int)) ≠ 0 then 1 - (j : Int) else go (j + 1) fuel

/-- Tries `count` digits, then one more, until a grid point reads back. -/
def Interval.digitsFrom (i : Interval) (k : Int) (count : Nat) : Nat → Nat × Int
  | 0 => (i.floorAt (k - count), k - count)
  | fuel + 1 =>
    let exponent := k - count
    let below := i.floorAt exponent
    let lowIn := i.holds below exponent
    let highIn := i.holds (below + 1) exponent
    if lowIn && highIn then
      (if i.nearerAbove below exponent then below + 1 else below, exponent)
    else if lowIn then (below, exponent)
    else if highIn then (below + 1, exponent)
    else i.digitsFrom k (count + 1) fuel

/-- The digits of the shortest decimal of a positive number, and the power of ten behind them. -/
def shortest (mantissa : Nat) (exponent : Int) : Nat × Int :=
  let i := interval mantissa exponent
  i.digitsFrom i.magnitude 1 17

/-- A decimal written out in full, without an exponent and without a fraction of zeros. -/
def positional (digits : Nat) (exponent : Int) : List Char :=
  if 0 ≤ exponent then decimal digits ++ List.replicate exponent.toNat '0'
  else
    let places := (-exponent).toNat
    let ds := padded (places + 1) digits
    let whole := ds.take (ds.length - places)
    let fraction := (ds.drop (ds.length - places)).reverse.dropWhile (· = '0')
    if fraction = [] then whole else whole ++ '.' :: fraction.reverse

/-- Text of any number: never an exponent, a sign on negative zero, no sign on what is no number. -/
def textChars : Binary64 → List Char
  | finite negative m e =>
    let digits := if m = 0 then ['0'] else positional (shortest m e).1 (shortest m e).2
    if negative then '-' :: digits else digits
  | infinite negative => (if negative then "-inf" else "inf").toList
  | nan => "NaN".toList

def text (x : Binary64) : String := String.ofList x.textChars

/-- Text of a number that shows it is not a whole number type: a finite one always has a point. -/
def pointedText (x : Binary64) : String :=
  match x with
  | finite _ _ _ => if '.' ∈ x.textChars then x.text else x.text ++ ".0"
  | _ => x.text

end Gatehouse.Binary64
