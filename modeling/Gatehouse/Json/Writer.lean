import Gatehouse.Json.Basic
import Gatehouse.Text.Hex

/-!
# Writing JSON

The compact form: no blanks, and in strings only the quotation mark, the backslash and the control
characters are escaped.
-/

namespace Gatehouse.Json

open Gatehouse.Text

def escapeChar (c : Char) : List Char :=
  if c = '"' then ['\\', '"']
  else if c = '\\' then ['\\', '\\']
  else if c.toNat = 8 then ['\\', 'b']
  else if c.toNat = 9 then ['\\', 't']
  else if c.toNat = 10 then ['\\', 'n']
  else if c.toNat = 12 then ['\\', 'f']
  else if c.toNat = 13 then ['\\', 'r']
  else if c.toNat < 32 then ['\\', 'u', '0', '0', hexDigit (c.toNat / 16), hexDigit (c.toNat % 16)]
  else [c]

def writeText (cs : List Char) : List Char := '"' :: cs.flatMap escapeChar ++ ['"']

mutual

def write : Json → List Char
  | .null => "null".toList
  | .bool true => "true".toList
  | .bool false => "false".toList
  | .num digits => digits
  | .str text => writeText (text.getD [])
  | .arr items => '[' :: writeItems items
  | .obj members => '\x7b' :: writeMembers members

/-- The items of an array and its closing bracket. -/
def writeItems : List Json → List Char
  | [] => [']']
  | [v] => write v ++ [']']
  | v :: w :: rest => write v ++ ',' :: writeItems (w :: rest)

/-- The members of an object and its closing brace. -/
def writeMembers : List (Option (List Char) × Json) → List Char
  | [] => ['\x7d']
  | [(key, v)] => writeText (key.getD []) ++ ':' :: write v ++ ['\x7d']
  | (key, v) :: m :: rest => writeText (key.getD []) ++ ':' :: write v ++ ',' :: writeMembers (m :: rest)

end

def compact (v : Json) : String := String.ofList (write v)

end Gatehouse.Json
