import Gatehouse.Number.Shortest
import Gatehouse.Text.Hex
import Gatehouse.Time.Calendar
import Gatehouse.Toml.Basic

/-!
# TOML numbers, dates and times

Digits may be grouped by single underscores. An integer has 64 bits. A date, a time of day, or both come
back in one normal form: a `T` between them, no zeros at the end of a fraction, at most nine decimals.
-/

namespace Gatehouse.Toml

open Gatehouse.Text

/-- Digits of a base, single underscores between them left out. -/
def groupedFrom (isDigit : Char → Bool) (read : List Char) : List Char → List Char × List Char
  | '_' :: c :: cs =>
    if isDigit c then groupedFrom isDigit (c :: read) cs else (read.reverse, '_' :: c :: cs)
  | c :: cs => if isDigit c then groupedFrom isDigit (c :: read) cs else (read.reverse, c :: cs)
  | [] => (read.reverse, [])

def grouped? (isDigit : Char → Bool) : List Char → Option (List Char × List Char)
  | c :: cs => if isDigit c then some (groupedFrom isDigit [c] cs) else none
  | [] => none

def sign : List Char → List Char × List Char
  | '+' :: cs => (['+'], cs)
  | '-' :: cs => (['-'], cs)
  | cs => ([], cs)

/-- A sign if any, and digits without a leading zero. -/
def decimalInteger? (cs : List Char) : Option (List Char × List Char) :=
  let (s, cs) := sign cs
  match cs with
  | '0' :: cs => some (s ++ ['0'], cs)
  | cs => (grouped? isDigit cs).map fun p => (s ++ p.1, p.2)

def base? (isDigit : Char → Bool) (base : Nat) (cs : List Char) : Option (Int × List Char) := do
  let (digits, cs) ← grouped? isDigit cs
  let n := digits.foldl (fun n c => n * base + (hexValue? c).getD 0) 0
  if n < Nat.pow 2 63 then some ((n : Int), cs) else none

def integer? (cs : List Char) : Option (Int × List Char) :=
  match cs with
  | '0' :: 'x' :: cs => base? (fun c => (hexValue? c).isSome) 16 cs
  | '0' :: 'o' :: cs => base? (fun c => '0' ≤ c && c ≤ '7') 8 cs
  | '0' :: 'b' :: cs => base? (fun c => c == '0' || c == '1') 2 cs
  | cs => do
    let (text, cs) ← decimalInteger? cs
    return (← int64? text, cs)

def exponentPart? : List Char → Option (List Char × List Char)
  | c :: cs =>
    if c = 'e' ∨ c = 'E' then do
      let (s, cs) := sign cs
      let (digits, cs) ← grouped? isDigit cs
      return ('e' :: s ++ digits, cs)
    else none
  | [] => none

def fractionPart? : List Char → Option (List Char × List Char)
  | '.' :: cs => (grouped? isDigit cs).map fun p => ('.' :: p.1, p.2)
  | _ => none

/-- A number with a fraction, an exponent, or both. One too large to the positive side is refused. -/
def decimalFloat? (cs : List Char) : Option (Binary64 × List Char) := do
  let (whole, cs) ← decimalInteger? cs
  let (tail, cs) ←
    match fractionPart? cs with
    | some (fraction, cs) =>
      match exponentPart? cs with
      | some (e, cs) => some (fraction ++ e, cs)
      | none => some (fraction, cs)
    | none => exponentPart? cs
  let x ← Binary64.ofChars? (whole ++ tail)
  if x = .infinite false then none else some (x, cs)

def specialFloat? (cs : List Char) : Option (Binary64 × List Char) :=
  let (s, cs) := sign cs
  match cs with
  | 'i' :: 'n' :: 'f' :: cs => some (.infinite (s == ['-']), cs)
  | 'n' :: 'a' :: 'n' :: cs => some (.nan, cs)
  | _ => none

/-- A number of exactly so many digits, within bounds. -/
def fixed? (width low high : Nat) (cs : List Char) : Option (Nat × List Char) := do
  let n ← digits? (cs.take width)
  if (cs.take width).length = width ∧ low ≤ n ∧ n ≤ high then some (n, cs.drop width) else none

def mark? (mark : Char) : List Char → Option (List Char)
  | c :: cs => if c = mark then some cs else none
  | [] => none

def date? (cs : List Char) : Option (List Char × List Char) := do
  let (year, cs) ← fixed? 4 0 9999 cs
  let (month, cs) ← fixed? 2 1 12 (← mark? '-' cs)
  let (day, cs) ← fixed? 2 1 31 (← mark? '-' cs)
  if (⟨year, month, day⟩ : Time.Date).IsValid then
    some (padded 4 year ++ '-' :: padded 2 month ++ '-' :: padded 2 day, cs)
  else none

/-- A fraction of a second in normal form, empty when it is zero. -/
def fractionOfSecond (digits : List Char) : List Char :=
  let kept := ((digits.take 9).reverse.dropWhile (· = '0')).reverse
  if kept = [] then [] else '.' :: kept

def timeOfDay? (cs : List Char) : Option (List Char × List Char) := do
  let (hour, cs) ← fixed? 2 0 23 cs
  let (minute, cs) ← fixed? 2 0 59 (← mark? ':' cs)
  let (second, cs) ← fixed? 2 0 60 (← mark? ':' cs)
  let text := padded 2 hour ++ ':' :: padded 2 minute ++ ':' :: padded 2 second
  match cs with
  | '.' :: rest =>
    let digits := rest.takeWhile isDigit
    if digits = [] then some (text, cs)
    else some (text ++ fractionOfSecond digits, rest.drop digits.length)
  | cs => some (text, cs)

def offset? : List Char → Option (List Char × List Char)
  | [] => none
  | c :: cs =>
    if c = 'Z' ∨ c = 'z' then some (['Z'], cs)
    else if c = '+' ∨ c = '-' then do
      let (hours, cs) ← fixed? 2 0 23 cs
      let (minutes, cs) ← fixed? 2 0 59 (← mark? ':' cs)
      let s := if hours = 0 ∧ minutes = 0 then '+' else c
      return (s :: padded 2 hours ++ ':' :: padded 2 minutes, cs)
    else none

/-- A date, with a time of day and an offset if they follow, or a time of day alone. -/
def datetime? (cs : List Char) : Option (List Char × List Char) :=
  match date? cs with
  | none => timeOfDay? cs
  | some (date, rest) =>
    let timed : Option (List Char × List Char) :=
      match rest with
      | [] => none
      | c :: cs => if c = 'T' ∨ c = 't' ∨ c = ' ' then timeOfDay? cs else none
    match timed with
    | none => some (date, rest)
    | some (time, rest) =>
      match offset? rest with
      | none => some (date ++ 'T' :: time, rest)
      | some (offset, rest) => some (date ++ 'T' :: time ++ offset, rest)

/-- A value that begins with a digit or a sign. -/
def numberOrTime? (cs : List Char) : Option (Value × List Char) :=
  match datetime? cs with
  | some (text, rest) => some (.datetime (String.ofList text), rest)
  | none =>
    match decimalFloat? cs with
    | some (x, rest) => some (.float x, rest)
    | none =>
      match specialFloat? cs with
      | some (x, rest) => some (.float x, rest)
      | none => (integer? cs).map fun p => (.integer p.1, p.2)

/-- A truth value or one of the named numbers. -/
def word? : List Char → Option (Value × List Char)
  | 't' :: 'r' :: 'u' :: 'e' :: cs => some (.boolean true, cs)
  | 'f' :: 'a' :: 'l' :: 's' :: 'e' :: cs => some (.boolean false, cs)
  | 'i' :: 'n' :: 'f' :: cs => some (.float (.infinite false), cs)
  | 'n' :: 'a' :: 'n' :: cs => some (.float .nan, cs)
  | _ => none

end Gatehouse.Toml
