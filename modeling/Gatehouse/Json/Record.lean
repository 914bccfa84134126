import Gatehouse.Json.Basic
import Gatehouse.Text.Numeral
import Gatehouse.Time.Rfc3339

/-!
# Records in JSON

A record with named fields is read from an object, by name, or from an array, by position. An object may
hold members of other names but none of the record's twice; an array may stop early but not run on. What
a missing field means is up to the field.
-/

namespace Gatehouse.Json

open Gatehouse.Text

/-- What a record holds under each of its names. -/
abbrev Fields := String → Option Json

def memberNamed (members : List (Option (List Char) × Json)) (name : String) : Option Json :=
  (members.find? fun m => m.1 = some name.toList).map Prod.snd

/-- All keys are texts, and no name of the record is given twice. -/
def membersFit (names : List String) (members : List (Option (List Char) × Json)) : Bool :=
  (members.all fun m => m.1.isSome) &&
    names.all fun name => (members.countP fun m => m.1 = some name.toList) ≤ 1

def fields? (names : List String) : Json → Option Fields
  | .obj members =>
    if membersFit names members then some (memberNamed members) else none
  | .arr items =>
    if items.length ≤ names.length then some fun name => (names.zip items).lookup name else none
  | _ => none

def Fields.required (fs : Fields) (name : String) (read : Json → Option α) : Option α :=
  (fs name).bind read

def Fields.orDefault (fs : Fields) (name : String) (read : Json → Option α) (default : α) : Option α :=
  match fs name with
  | none => some default
  | some v => read v

def text? : Json → Option String
  | .str (some cs) => some (String.ofList cs)
  | _ => none

def bool? : Json → Option Bool
  | .bool b => some b
  | _ => none

/-- A whole number of 64 bits, written without sign, point or exponent. -/
def uint64? : Json → Option UInt64
  | .num ds => do
    let n ← digits? ds
    if n < Nat.pow 2 64 then some (UInt64.ofNat n) else none
  | _ => none

def instant? : Json → Option Instant
  | .str (some cs) => Time.instantOfChars? cs
  | _ => none

def nullOr? (read : Json → Option α) : Json → Option (Option α)
  | .null => some none
  | v => (read v).map some

/-- One of a set of names: the name itself, or an object that holds nothing but null under it. -/
def variant? (byName : String → Option α) : Json → Option α
  | .str (some cs) => byName (String.ofList cs)
  | .obj [(some cs, .null)] => byName (String.ofList cs)
  | _ => none

def instant (t : Instant) : Json := .str (some (Time.timestampChars t))

def orNull (write : α → Json) : Option α → Json
  | none => .null
  | some a => write a

end Gatehouse.Json
