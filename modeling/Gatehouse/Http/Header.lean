import Gatehouse.Http.Method
import Gatehouse.Text.Utf8

/-!
# Request headers

Names are tokens in lower case. A value is a run of bytes without controls; it reads as text only if every
byte is visible ASCII, a blank or a tab.
-/

namespace Gatehouse.Http

def isValueByte (b : UInt8) : Bool := (0x20 ≤ b && b != 0x7F) || b == 0x09

def isTextByte (b : UInt8) : Bool := (0x20 ≤ b && b ≤ 0x7E) || b == 0x09

structure Header where
  name : String
  value : List UInt8
deriving DecidableEq, Repr

abbrev Headers := List Header

inductive HeaderFault where
  | name
  | value
deriving DecidableEq, Repr

def valueOfText (s : String) : List UInt8 := Text.utf8 s

namespace Header

/-- A header with a name in any letter case and the bytes of a text as its value. -/
def make (name value : String) : Except HeaderFault Header :=
  if isToken name = false then .error .name
  else if (valueOfText value).all isValueByte then
    .ok ⟨String.ofList (name.toList.map Char.toLower), valueOfText value⟩
  else .error .value

end Header

def textOfValue? (value : List UInt8) : Option (List Char) :=
  if value.all isTextByte then some (value.map fun b => Char.ofNat b.toNat) else none

namespace Headers

/-- All values under a name, in order. -/
def values (hs : Headers) (name : String) : List (List UInt8) :=
  (hs.filter fun h => h.name = name).map Header.value

/-- The text of the first value under a name. A first value that is no text counts as absent. -/
def firstText? (hs : Headers) (name : String) : Option (List Char) :=
  (hs.values name).head?.bind textOfValue?

end Headers

/-- Text that may stand in a header of a response: no controls but the tab. -/
def isValueChar (c : Char) : Bool := (0x20 ≤ c.toNat && c.toNat != 0x7F) || c == '\t'

end Gatehouse.Http
