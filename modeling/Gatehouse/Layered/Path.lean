import Gatehouse.Layered.Value
import Gatehouse.Text.Numeral

/-!
# Paths into layered values

A key of a source may name a place deep inside the tables: a name, then steps `.name` into tables and
`[number]` into arrays. What is missing on the way is made, and what is in the way is replaced. A negative
number counts from the end of an array; one that reaches beyond its front names no place.
-/

namespace Gatehouse.Layered

open Gatehouse.Text

inductive Step where
  | child (key : String)
  | index (i : Int)
deriving DecidableEq, Repr

structure Path where
  root : String
  steps : List Step
deriving DecidableEq, Repr

def isNameChar (c : Char) : Bool :=
  ('a' ≤ c && c ≤ 'z') || ('A' ≤ c && c ≤ 'Z') || isDigit c || c == '_' || c == '-' || c == ' '

def readName (cs : List Char) : Option (String × List Char) :=
  let name := cs.takeWhile isNameChar
  if name = [] then none else some (String.ofList name, cs.drop name.length)

def isIndexBlank (c : Char) : Bool := c == ' ' || c == '\t' || c == '\r' || c == '\n'

/-- A number and its closing bracket. -/
def readIndex (cs : List Char) : Option (Int × List Char) := do
  let cs := cs.dropWhile isIndexBlank
  let sign := cs.takeWhile (· = '-')
  let digits := (cs.drop sign.length).takeWhile isDigit
  let i ← if digits = [] then none else int64? (sign ++ digits)
  match (cs.drop (sign.length + digits.length)).dropWhile isIndexBlank with
  | ']' :: cs => some (i, cs)
  | _ => none

def readStep : List Char → Option (Step × List Char)
  | '.' :: cs => (readName cs).map fun p => (.child p.1, p.2)
  | '[' :: cs => (readIndex cs).map fun p => (.index p.1, p.2)
  | _ => none

/-- Steps up to the end of the text; `fuel` bounds their number. -/
def readSteps : (fuel : Nat) → List Char → Option (List Step)
  | _, [] => some []
  | 0, _ => none
  | fuel + 1, cs => do
    let (step, cs) ← readStep cs
    let steps ← readSteps fuel cs
    return step :: steps

def Path.ofChars? (cs : List Char) : Option Path := do
  let (root, cs) ← readName cs
  let steps ← readSteps cs.length cs
  return ⟨root, steps⟩

/-- The position that an index means in an array of a given length. -/
def position? (i : Int) (length : Nat) : Option Nat :=
  if 0 ≤ i then some i.toNat
  else if i.natAbs ≤ length then some (length - i.natAbs)
  else none

namespace Value

def items : Value → List Value
  | .array _ items => items
  | _ => []

/-- The items of an array, with nil for those that are missing up to a position. -/
def itemsUpTo (v : Value) (position : Nat) : List Value :=
  v.items ++ List.replicate (position + 1 - v.items.length) nil

/-- An array with other items. An array keeps its origin; anything else is dropped for one of none. -/
def withItems (v : Value) (items : List Value) : Value :=
  match v with
  | .array o _ => .array o items
  | _ => .array none items

/-- Puts a value at the end of a sequence of steps. -/
def putAt (v : Value) : List Step → (root : Value) → Option Value
  | [], _ => some v
  | [.child key], root => some ((if root.isTable then root else emptyTable).put key v)
  | .child key :: steps, root => do
    let inner ← putAt v steps ((root.get? key).getD nil)
    return root.set key inner
  | .index i :: steps, root => do
    let n ← position? i root.items.length
    let items := root.itemsUpTo n
    let inner ← putAt v steps (items.getD n nil)
    return root.withItems (items.set n inner)

/-- Puts a value under a key of a source. A key that is no path is a plain name. -/
def putKey (root : Value) (key : String) (v : Value) : Option Value :=
  match Path.ofChars? key.toList with
  | none => some (root.put key v)
  | some ⟨name, []⟩ => some (root.put name v)
  | some ⟨name, steps⟩ => do
    let inner ← putAt v steps ((root.get? name).getD nil)
    return root.set name inner

/-- Puts the entries of a source into a table one after the other. -/
def overlay (root : Value) (entries : List (String × Value)) : Option Value :=
  entries.foldlM (fun root e => root.putKey e.1 e.2) root

end Value

end Gatehouse.Layered
