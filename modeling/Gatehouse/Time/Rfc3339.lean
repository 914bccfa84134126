import Gatehouse.Text.Blank
import Gatehouse.Text.Numeral
import Gatehouse.Time.Instant

/-!
# Timestamps

An instant is written as RFC 3339 asks: UTC with a `Z`, and the fewest of 0, 3, 6 or 9 decimals that lose
nothing. A year outside 0 to 9999 carries a sign. The reader is more generous than the writer: it takes
blanks between the parts, a blank in place of the `T`, short months and days, any number of decimals
(the tenth and later are dropped), and any offset below a day.
-/

namespace Gatehouse.Time

open Gatehouse.Text

/-- At least four digits, with a sign outside 0 to 9999. -/
def yearText (y : Int) : List Char :=
  if 0 ≤ y ∧ y ≤ 9999 then padded 4 y.toNat
  else (if y < 0 then '-' else '+') :: padded 4 y.natAbs

/-- A second of the day as a clock shows it; `extra` is one inside a leap second. -/
def clockText (secondOfDay extra : Nat) : List Char :=
  padded 2 (secondOfDay / 3600) ++ ':' :: padded 2 (secondOfDay / 60 % 60) ++
    ':' :: padded 2 (secondOfDay % 60 + extra)

def fractionText (nanos : Nat) : List Char :=
  if nanos = 0 then []
  else if nanos % 1000000 = 0 then '.' :: padded 3 (nanos / 1000000)
  else if nanos % 1000 = 0 then '.' :: padded 6 (nanos / 1000)
  else '.' :: padded 9 nanos

def timestampChars (t : Instant) : List Char :=
  let date := Date.ofDayNumber t.dayNumber
  yearText date.year ++ '-' :: padded 2 date.month ++ '-' :: padded 2 date.day ++ 'T' ::
    clockText t.secondOfDay.toNat (if t.leap then 1 else 0) ++
    fractionText (t.nanos % 1000000000).toNat ++ ['Z']

/-- Up to `width` digits, at least one. -/
def readDigits (width : Nat) (cs : List Char) : Option (Nat × List Char) := do
  let run := (cs.take width).takeWhile isDigit
  let n ← digits? run
  return (n, cs.drop run.length)

/-- Up to `width` digits after optional blanks, within bounds. -/
def readField (width low high : Nat) (cs : List Char) : Option (Nat × List Char) := do
  let (n, rest) ← readDigits width (trimStart cs)
  if low ≤ n ∧ n ≤ high then some (n, rest) else none

/-- A given mark after optional blanks. -/
def readMark (mark : Char) (cs : List Char) : Option (List Char) :=
  match trimStart cs with
  | c :: rest => if c = mark then some rest else none
  | [] => none

def readYear (cs : List Char) : Option (Int × List Char) :=
  match trimStart cs with
  | '-' :: rest => do
    let (n, rest) ← readDigits rest.length rest
    return (-(n : Int), rest)
  | '+' :: rest => do
    let (n, rest) ← readDigits rest.length rest
    return ((n : Int), rest)
  | rest => do
    let (n, rest) ← readDigits 4 rest
    return ((n : Int), rest)

def readDate (cs : List Char) : Option (Date × List Char) := do
  let (year, cs) ← readYear cs
  let cs ← readMark '-' cs
  let (month, cs) ← readField 2 1 12 cs
  let cs ← readMark '-' cs
  let (day, cs) ← readField 2 1 31 cs
  let date : Date := ⟨year, month, day⟩
  if -262143 ≤ year ∧ year ≤ 262142 ∧ date.IsValid then some (date, cs) else none

/-- Nanoseconds after an optional decimal point; digits after the ninth are dropped. -/
def readFraction : List Char → Option (Nat × List Char)
  | '.' :: cs => do
    let run := cs.takeWhile isDigit
    let kept := run.take 9
    let n ← digits? kept
    return (n * Nat.pow 10 (9 - kept.length), cs.drop run.length)
  | cs => some (0, cs)

/-- Seconds of the day up to 60 seconds in the last minute, and nanoseconds. -/
def readClock (cs : List Char) : Option ((Nat × Nat × Nat) × Nat × List Char) := do
  let (hour, cs) ← readField 2 0 23 cs
  let cs ← readMark ':' cs
  let (minute, cs) ← readField 2 0 59 cs
  let cs ← readMark ':' cs
  let (second, cs) ← readField 2 0 60 cs
  let (nanos, cs) ← readFraction cs
  return ((hour, minute, second), nanos, cs)

/-- Seconds east of UTC after a sign. -/
def readSignedOffset (cs : List Char) : Option (Nat × List Char) := do
  match cs with
  | h1 :: h2 :: cs =>
    let hours ← digits? [h1, h2]
    match cs.dropWhile fun c => c = ':' || isBlank c with
    | m1 :: m2 :: cs =>
      let minutes ← digits? [m1, m2]
      if minutes < 60 then some (hours * 3600 + minutes * 60, cs) else none
    | _ => none
  | _ => none

def readOffset (cs : List Char) : Option (Int × List Char) :=
  if (cs.take 3).map Char.toUpper = ['U', 'T', 'C'] then some (0, cs.drop 3)
  else
    match cs with
    | [] => none
    | c :: cs =>
      if c = 'Z' ∨ c = 'z' then some (0, cs)
      else if c = '+' then (readSignedOffset cs).map fun p => ((p.1 : Int), p.2)
      else if c = '-' ∨ c.toNat = 0x2212 then (readSignedOffset cs).map fun p => (-(p.1 : Int), p.2)
      else none

/-- The instant of a wall clock reading at an offset. Second 60 is the leap second after second 59. -/
def instantAt? (date : Date) (clock : Nat × Nat × Nat) (nanos : Nat) (offset : Int) : Option Instant :=
  let (hour, minute, second) := clock
  let secondOfDay : Int := hour * 3600 + minute * 60 + min second 59
  Instant.make?
    (((date.dayNumber - epochDay) * 86400 + secondOfDay - offset) * 1000000000 + nanos)
    (second == 60)

def instantOfChars? (cs : List Char) : Option Instant := do
  let (date, cs) ← readDate cs
  match cs with
  | [] => none
  | c :: cs =>
    if c = 'T' ∨ c = 't' ∨ c = ' ' then
      let (clock, nanos, cs) ← readClock cs
      let (offset, cs) ← readOffset (trimStart cs)
      if trimStart cs = [] ∧ -86400 < offset ∧ offset < 86400 then
        instantAt? date clock nanos offset
      else none
    else none

end Gatehouse.Time
