import Gatehouse.Text.Hex
import Gatehouse.Text.Numeral

/-!
# Network addresses

The address of a peer is read together with its port, `1.2.3.4:80` or `[::1]:80`, and written without. An
address of version 6 is written in its shortest form: the first longest run of two or more zero groups is
left out, and an address of version 4 inside one of version 6 keeps its dots.
-/

namespace Gatehouse.Http

open Gatehouse.Text

inductive Address where
  | v4 (octets : List Nat)
  | v6 (groups : List Nat)
deriving DecidableEq, Repr

namespace Address

/-- All leading digits, at most `width` of them, with a value up to `limit`. -/
def readNumber (width limit : Nat) (leadingZero : Bool) (cs : List Char) : Option (Nat × List Char) := do
  let run := cs.takeWhile isDigit
  let n ← digits? run
  if run.length ≤ width ∧ n ≤ limit ∧ (leadingZero ∨ run.length = 1 ∨ run.head? ≠ some '0') then
    some (n, cs.drop run.length)
  else none

def readMark (mark : Char) : List Char → Option (List Char)
  | c :: cs => if c = mark then some cs else none
  | [] => none

def readV4 (cs : List Char) : Option (List Nat × List Char) := do
  let (a, cs) ← readNumber 3 255 false cs
  let (b, cs) ← readNumber 3 255 false (← readMark '.' cs)
  let (c, cs) ← readNumber 3 255 false (← readMark '.' cs)
  let (d, cs) ← readNumber 3 255 false (← readMark '.' cs)
  return ([a, b, c, d], cs)

def readGroup (cs : List Char) : Option (Nat × List Char) :=
  let run := cs.takeWhile fun c => (hexValue? c).isSome
  if run = [] ∨ 4 < run.length then none
  else some (run.foldl (fun n c => n * 16 + (hexValue? c).getD 0) 0, cs.drop run.length)

/-- Up to `limit` groups with colons between them, and whether an address of version 4 ended them. -/
def readGroups (first : Bool) : (limit : Nat) → List Char → List Nat × Bool × List Char
  | 0, cs => ([], false, cs)
  | limit + 1, cs =>
    match (if first then some cs else readMark ':' cs) with
    | none => ([], false, cs)
    | some rest =>
      match (if limit = 0 then none else readV4 rest) with
      | some ([a, b, c, d], rest) => ([a * 256 + b, c * 256 + d], true, rest)
      | _ =>
        match readGroup rest with
        | none => ([], false, cs)
        | some (g, rest) =>
          let (gs, dotted, rest) := readGroups false limit rest
          (g :: gs, dotted, rest)

def readV6 (cs : List Char) : Option (List Nat × List Char) := do
  let (front, dotted, cs) := readGroups true 8 cs
  if front.length = 8 then some (front, cs)
  else if dotted then none
  else
    let cs ← readMark ':' cs
    let cs ← readMark ':' cs
    let (back, _, cs) := readGroups true (7 - front.length) cs
    return (front ++ List.replicate (8 - front.length - back.length) 0 ++ back, cs)

/-- A zone behind a percent sign is read and dropped. -/
def skipZone (cs : List Char) : List Char :=
  match cs with
  | '%' :: rest =>
    match readNumber rest.length (Nat.pow 2 32 - 1) true rest with
    | some (_, rest) => rest
    | none => cs
  | _ => cs

def readPort (cs : List Char) : Option (List Char) := do
  let cs ← readMark ':' cs
  let (_, cs) ← readNumber cs.length 65535 true cs
  return cs

def readV4WithPort (cs : List Char) : Option (Address × List Char) := do
  let (octets, cs) ← readV4 cs
  return (.v4 octets, ← readPort cs)

def readV6WithPort (cs : List Char) : Option (Address × List Char) := do
  let (groups, cs) ← readV6 (← readMark '[' cs)
  let cs ← readPort (← readMark ']' (skipZone cs))
  return (.v6 groups, cs)

/-- The address in front of a port. -/
def ofPeer? (s : String) : Option Address :=
  match (readV4WithPort s.toList).or (readV6WithPort s.toList) with
  | some (a, []) => some a
  | _ => none

def dotText (octets : List Nat) : String := String.intercalate "." (octets.map toString)

def groupText (groups : List Nat) : String :=
  String.intercalate ":" (groups.map fun g => String.ofList (Nat.toDigits 16 g))

/-- Start and length of the first longest run of zeros from position `i` on, and of the run that the
previous group belongs to. -/
def longestZeros (i : Nat) (longest current : Nat × Nat) : List Nat → Nat × Nat
  | [] => longest
  | g :: gs =>
    if g = 0 then
      let current := if current.2 = 0 then (i, 1) else (current.1, current.2 + 1)
      longestZeros (i + 1) (if longest.2 < current.2 then current else longest) current gs
    else longestZeros (i + 1) longest (0, 0) gs

def v6Text (groups : List Nat) : String :=
  match groups with
  | [0, 0, 0, 0, 0, 0xFFFF, a, b] => "::ffff:" ++ dotText [a / 256, a % 256, b / 256, b % 256]
  | _ =>
    let (start, length) := longestZeros 0 (0, 0) (0, 0) groups
    if 1 < length then groupText (groups.take start) ++ "::" ++ groupText (groups.drop (start + length))
    else groupText groups

def text : Address → String
  | v4 octets => dotText octets
  | v6 groups => v6Text groups

end Address

end Gatehouse.Http
