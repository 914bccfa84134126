import Gatehouse.Number.Shortest
import Gatehouse.Text.Lowercase
import Gatehouse.Toml.Basic

/-!
# Values gathered from several sources

Settings come from a file and from the environment, and a value remembers which of the two it came from. A
table grows when a later source adds to it: keys are filed in lower case, tables are merged key by key, and
anything else takes the place of what was there. A table that sources have in common belongs to none of them.
-/

namespace Gatehouse.Layered

open Gatehouse.Text

inductive Origin where
  | file
  | environment
deriving DecidableEq, Repr

inductive Scalar where
  | nil
  | boolean (b : Bool)
  | integer (n : Int)
  | float (x : Binary64)
  | text (s : String)
deriving DecidableEq

inductive Value where
  | scalar (origin : Option Origin) (s : Scalar)
  | array (origin : Option Origin) (items : List Value)
  | table (origin : Option Origin) (entries : List (String × Value))

namespace Value

instance : Inhabited Value := ⟨.scalar none .nil⟩

def nil : Value := .scalar none .nil

def emptyTable : Value := .table none []

def isTable : Value → Bool
  | .table .. => true
  | _ => false

/-- The entries of a table; anything else has none and makes room for a table. -/
def entries : Value → List (String × Value)
  | .table _ es => es
  | _ => []

def origin : Value → Option Origin
  | .scalar o _ => o
  | .array o _ => o
  | .table o _ => o

def get? (v : Value) (key : String) : Option Value := v.entries.lookup key

/-- Files a value under a key in place of an earlier one, or behind all others. -/
def setEntry (es : List (String × Value)) (key : String) (v : Value) : List (String × Value) :=
  match es with
  | [] => [(key, v)]
  | (k, w) :: es => if k = key then (k, v) :: es else (k, w) :: setEntry es key v

/-- A table with one entry set. A table keeps its origin; anything else is dropped for a table of none. -/
def set (root : Value) (key : String) (v : Value) : Value :=
  match root with
  | .table o es => .table o (setEntry es key v)
  | _ => .table none [(key, v)]

mutual

/-- Merges a value into a table under the lower case of a key. -/
def put (root : Value) (key : String) : Value → Value
  | .table _ es => root.set (lower key) (putAll ((root.get? (lower key)).getD emptyTable) es)
  | v => root.set (lower key) v

def putAll (root : Value) : List (String × Value) → Value
  | [] => root
  | (key, v) :: es => putAll (put root key v) es

end

mutual

/-- A value of a document; all its parts come from the file. -/
def ofToml : Toml.Value → Value
  | .text s => .scalar (some .file) (.text s)
  | .integer n => .scalar (some .file) (.integer n)
  | .float x => .scalar (some .file) (.float x)
  | .boolean b => .scalar (some .file) (.boolean b)
  | .datetime s => .scalar (some .file) (.text s)
  | .array items => .array (some .file) (ofTomlItems items)
  | .table es => .table (some .file) (ofTomlEntries es)

def ofTomlItems : List Toml.Value → List Value
  | [] => []
  | v :: vs => ofToml v :: ofTomlItems vs

def ofTomlEntries : List (String × Toml.Value) → List (String × Value)
  | [] => []
  | (key, v) :: es => (key, ofToml v) :: ofTomlEntries es

end

end Value

end Gatehouse.Layered
