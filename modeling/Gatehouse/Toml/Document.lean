import Gatehouse.Toml.Scalar
import Gatehouse.Toml.Text
import Gatehouse.Toml.Tree

/-!
# TOML documents

A document is a sequence of lines: headers that open a table, keys with their values, comments. Values may
nest up to a fixed depth, which bounds the reader's recursion.
-/

namespace Gatehouse.Toml

abbrev ValueReader := List Char → Option (Value × List Char)

/-- The items of an array behind its opening bracket or a comma. -/
def arrayItems (item : ValueReader) (read : List Value) : (fuel : Nat) → ValueReader
  | 0, _ => none
  | fuel + 1, cs =>
    match skipLines (cs.length + 1) cs with
    | ']' :: cs => some (.array read.reverse, cs)
    | cs => do
      let (v, cs) ← item cs
      match skipLines (cs.length + 1) cs with
      | ',' :: cs => arrayItems item (v :: read) fuel cs
      | ']' :: cs => some (.array (v :: read).reverse, cs)
      | _ => none

/-- A key, an equals sign and a value on one line, and the blanks behind. -/
def member? (item : ValueReader) (cs : List Char) : Option (List String × Value × List Char) := do
  let (keys, cs) ← key? cs
  let (v, cs) ← item (skipBlanks (← mark? '=' cs))
  return (keys, v, skipBlanks cs)

def Entries.putMember (es : Entries) (keys : List String) (v : Value) : Option Entries := do
  es.putValue (← keys.getLast?) v keys.dropLast

/-- The members of an inline table behind its opening brace or a comma. -/
def inlineMembers (item : ValueReader) (read : Entries) : (fuel : Nat) → ValueReader
  | 0, _ => none
  | fuel + 1, cs => do
    let (keys, v, cs) ← member? item cs
    let read ← read.putMember keys v
    match cs with
    | ',' :: cs => inlineMembers item read fuel cs
    | '\x7d' :: cs => some (.table (entriesToValues read), cs)
    | _ => none

/-- A value that may nest `depth` levels deep. -/
def value? : (depth : Nat) → ValueReader
  | 0, _ => none
  | depth + 1, cs =>
    match cs with
    | [] => none
    | c :: rest =>
      if c = '"' ∨ c = '\'' then (string? cs).map fun p => (.text (String.ofList p.1), p.2)
      else if c = '[' then
        if depth = 0 then none else arrayItems (value? depth) [] (rest.length + 1) rest
      else if c = '\x7b' then
        if depth = 0 then none
        else
          match skipBlanks rest with
          | '\x7d' :: rest => some (.table [], rest)
          | rest => inlineMembers (value? depth) [] (rest.length + 1) rest
      else if c = '+' ∨ c = '-' ∨ Gatehouse.Text.isDigit c then numberOrTime? cs
      else word? cs

/-- The end of a line: blanks, a comment if any, and a line end unless the text is over. -/
def endOfLine? (cs : List Char) : Option (List Char) :=
  match skipComment (skipBlanks cs) with
  | [] => some []
  | cs => newline? cs

/-- The tables read so far, and the header that is in force. -/
structure Reading where
  root : Entries
  path : List String

def Reading.header (r : Reading) (keys : List String) (opening : Entries → String → Option Entries) :
    Option Reading := do
  let key ← keys.getLast?
  let root ← r.root.within (fun es => opening es key) keys.dropLast
  return ⟨root, keys⟩

/-- One line that is neither empty nor a comment. -/
def Reading.line? (r : Reading) (cs : List Char) : Option (Reading × List Char) :=
  match cs with
  | '[' :: '[' :: cs => do
    let (keys, cs) ← key? cs
    let cs ← endOfLine? (← mark? ']' (← mark? ']' cs))
    return (← r.header keys Entries.openNext, cs)
  | '[' :: cs => do
    let (keys, cs) ← key? cs
    let cs ← endOfLine? (← mark? ']' cs)
    return (← r.header keys Entries.openTable, cs)
  | cs => do
    let (keys, v, cs) ← member? (value? nestingLimit) cs
    let cs ← endOfLine? cs
    let root ← r.root.within (fun es => es.putMember keys v) r.path
    return (⟨root, r.path⟩, cs)

def Reading.lines? (r : Reading) : (fuel : Nat) → List Char → Option Reading
  | 0, _ => none
  | fuel + 1, cs =>
    match skipLines (cs.length + 1) cs with
    | [] => some r
    | '#' :: cs => if cs.all isPlain then some r else none
    | cs => do
      let (r, cs) ← r.line? cs
      r.lines? fuel cs

/-- The table of a document. A byte order mark at the start is skipped. -/
def document? (cs : List Char) : Option (List (String × Value)) := do
  let cs := match cs with
    | c :: rest => if c.toNat = 0xFEFF then rest else cs
    | [] => []
  let r ← Reading.lines? ⟨[], []⟩ (cs.length + 1) cs
  return entriesToValues r.root

end Gatehouse.Toml
