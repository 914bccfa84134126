import Gatehouse.Toml.Basic

/-!
# TOML tables under construction

While a document is read, a table remembers how it came to be. A header makes it explicit; the tables on
the way to it are implicit until a header of their own comes; a dotted key makes its tables both implicit
and dotted, and those stay closed to headers of their own. An array of tables grows at its end, and names
in later headers and keys mean its last table.
-/

namespace Gatehouse.Toml

inductive Node where
  | value (v : Value)
  | table (implicit : Bool) (dotted : Bool) (entries : List (String × Node))
  /-- The tables of an array, the last one first. -/
  | tables (last : List (String × Node)) (earlier : List (List (String × Node)))

abbrev Entries := List (String × Node)

def Entries.find? (es : Entries) (key : String) : Option Node :=
  (List.find? (fun e => e.1 == key) es).map Prod.snd

/-- Replaces the node under a key, or adds it at the end. -/
def Entries.set (es : Entries) (key : String) (node : Node) : Entries :=
  if es.any fun e => e.1 == key then es.map fun e => if e.1 == key then (key, node) else e
  else es ++ [(key, node)]

/-- Puts a value under a dotted key: `path` are the tables on the way. No table on the way may come from a
header, and the table that takes the value must have been made by dotted keys. -/
def Entries.putValue (es : Entries) (key : String) (v : Value) : (path : List String) → Option Entries
  | [] => if (es.find? key).isSome then none else some (es ++ [(key, .value v)])
  | k :: path =>
    match es.find? k with
    | none => do
      let inner ← Entries.putValue [] key v path
      return es ++ [(k, .table true true inner)]
    | some (.table implicit dotted inner) =>
      if implicit ∧ (path = [] → dotted) then do
        let inner ← Entries.putValue inner key v path
        return es.set k (.table implicit dotted inner)
      else none
    | some (.tables last earlier) =>
      if path = [] then none
      else do
        let last ← Entries.putValue last key v path
        return es.set k (.tables last earlier)
    | some (.value _) => none

/-- Changes the table that a header path leads to, making implicit tables on the way. -/
def Entries.within (es : Entries) (change : Entries → Option Entries) : (path : List String) → Option Entries
  | [] => change es
  | k :: path =>
    match es.find? k with
    | none => do
      let inner ← Entries.within [] change path
      return es ++ [(k, .table true false inner)]
    | some (.table implicit dotted inner) => do
      let inner ← Entries.within inner change path
      return es.set k (.table implicit dotted inner)
    | some (.tables last earlier) => do
      let last ← Entries.within last change path
      return es.set k (.tables last earlier)
    | some (.value _) => none

/-- Opens a table by its own header: new, or implicit so far and not dotted. -/
def Entries.openTable (es : Entries) (key : String) : Option Entries :=
  match es.find? key with
  | none => some (es ++ [(key, .table false false [])])
  | some (.table true false inner) => some (es.set key (.table false false inner))
  | _ => none

/-- Opens one more table of an array of tables. -/
def Entries.openNext (es : Entries) (key : String) : Option Entries :=
  match es.find? key with
  | none => some (es ++ [(key, .tables [] [])])
  | some (.tables last earlier) => some (es.set key (.tables [] (last :: earlier)))
  | _ => none

mutual

def Node.toValue : Node → Value
  | .value v => v
  | .table _ _ entries => .table (entriesToValues entries)
  | .tables last earlier => .array ((Value.table (entriesToValues last) :: tablesToValues earlier).reverse)

def entriesToValues : List (String × Node) → List (String × Value)
  | [] => []
  | (k, n) :: es => (k, n.toValue) :: entriesToValues es

def tablesToValues : List (List (String × Node)) → List Value
  | [] => []
  | t :: ts => .table (entriesToValues t) :: tablesToValues ts

end

end Gatehouse.Toml
