import Gatehouse.Text.Lowercase
import Gatehouse.Text.Unprintable

/-!
# Text quoted for a message

A value inside an error message stands between quotation marks, and every character that a reader could
not see is written as an escape: by a letter where there is one, by its code point otherwise.
-/

namespace Gatehouse.Text

def isUnprintable (c : Char) : Bool :=
  c.toNat < 32 || (127 ≤ c.toNat && inRanges unprintableRanges c)

def codePointEscape (c : Char) : List Char :=
  ['\\', 'u', '\x7b'] ++ Nat.toDigits 16 c.toNat ++ ['\x7d']

def quotedChar (c : Char) : List Char :=
  if c = '"' then ['\\', '"']
  else if c = '\\' then ['\\', '\\']
  else if c = '\n' then ['\\', 'n']
  else if c = '\r' then ['\\', 'r']
  else if c = '\t' then ['\\', 't']
  else if c.toNat = 0 then ['\\', '0']
  else if isUnprintable c then codePointEscape c
  else [c]

def quoted (s : String) : String :=
  String.ofList ('"' :: s.toList.flatMap quotedChar ++ ['"'])

end Gatehouse.Text
