import Gatehouse.Text.Hex
import Gatehouse.Text.Utf8

/-!
# Percent encoding

A percent sign with two hexadecimal digits stands for a byte. A percent sign without them stands for itself.
-/

namespace Gatehouse.Http

open Gatehouse.Text

def hexByte? (a b : UInt8) : Option UInt8 := do
  let high ← hexValue? (Char.ofNat a.toNat)
  let low ← hexValue? (Char.ofNat b.toNat)
  return UInt8.ofNat (16 * high + low)

def percentDecode : List UInt8 → List UInt8
  | [] => []
  | a :: b :: c :: rest =>
    if a = 0x25 then
      match hexByte? b c with
      | some byte => byte :: percentDecode rest
      | none => a :: percentDecode (b :: c :: rest)
    else a :: percentDecode (b :: c :: rest)
  | a :: rest => a :: percentDecode rest

/-- The text that a segment of a path stands for, unless its bytes spell none. -/
def segmentText? (segment : List Char) : Option String :=
  (utf8? (percentDecode (utf8 (String.ofList segment)))).map String.ofList

end Gatehouse.Http
