import Gatehouse.Layered.Value
import Gatehouse.Text.Numeral

/-!
# The environment as a source

A variable whose name begins with the program's mark names a setting: two underscores stand for a step
into a table. Letter case does not matter. Its text is taken for a truth value or a number if it reads as one.
-/

namespace Gatehouse.Layered

open Gatehouse.Text

/-- What the names of the program's variables begin with. -/
def environmentMark : List Char := "sniply__".toList

/-- Every pair of underscores becomes a dot, from the left. -/
def dotted : List Char → List Char
  | '_' :: '_' :: cs => '.' :: dotted cs
  | c :: cs => c :: dotted cs
  | [] => []

/-- The key that a variable sets, if it is one of the program's. -/
def keyOfVariable? (name : String) : Option String :=
  let name := lowerChars name.toList
  if environmentMark.isPrefixOf name then
    some (String.ofList (dotted (name.drop environmentMark.length)))
  else none

def scalarOfText (s : String) : Scalar :=
  if lower s = "true" then .boolean true
  else if lower s = "false" then .boolean false
  else
    match int64? s.toList with
    | some n => .integer n
    | none =>
      match Binary64.ofChars? s.toList with
      | some x => .float x
      | none => .text s

/-- The settings among a list of variables. -/
def ofEnvironment (environment : List (String × String)) : List (String × Value) :=
  environment.filterMap fun v =>
    (keyOfVariable? v.1).map fun key => (key, .scalar (some .environment) (scalarOfText v.2))

end Gatehouse.Layered
