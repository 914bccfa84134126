import Gatehouse.Json.Basic
import Gatehouse.Text.Hex
import Gatehouse.Text.Numeral
import Gatehouse.Text.Utf8

/-!
# JSON tokens

The text is read character by character by a machine that remembers the token it is in the middle of. The
text may have gaps where bytes spelled no character; a gap is allowed inside a string only, and makes the
string one that spells no text. Escapes are checked for their form at once, and for their sense (halves of
surrogate pairs that belong together) when the string ends.
-/

namespace Gatehouse.Json

open Gatehouse.Text

inductive Token where
  | openBrace | closeBrace | openBracket | closeBracket | colon | comma
  | word (value : Json)
  | num (digits : List Char)
  | str (text : Option (List Char))

/-- What a string is made of: characters, halves of surrogate pairs, and gaps. -/
inductive StringUnit where
  | char (c : Char)
  | half (code : Nat)
  | gap

/-- The text of a string whose units are given in reverse, in front of text already known. -/
def textOfUnits (known : List Char) : List StringUnit → Option (List Char)
  | [] => some known
  | .char c :: units => textOfUnits (c :: known) units
  | .half low :: .half high :: units =>
    if 0xDC00 ≤ low ∧ low ≤ 0xDFFF ∧ 0xD800 ≤ high ∧ high ≤ 0xDBFF then
      textOfUnits (Char.ofNat (0x10000 + (high - 0xD800) * 0x400 + (low - 0xDC00)) :: known) units
    else none
  | _ => none

/-- The token that the machine is in the middle of; what it has read of it is in reverse. -/
inductive Reading where
  | between
  | word (letters : List Char)
  | num (digits : List Char)
  | str (units : List StringUnit)
  | escape (units : List StringUnit)
  | code (units : List StringUnit) (missing : Nat) (value : Nat)

def isJsonBlank (c : Char) : Bool := c == ' ' || c == '\t' || c == '\n' || c == '\r'

def isNumberPart (c : Char) : Bool :=
  isDigit c || c == '-' || c == '+' || c == '.' || c == 'e' || c == 'E'

def isWordPart (c : Char) : Bool := 'a' ≤ c && c ≤ 'z'

def wordValue? (letters : List Char) : Option Json :=
  if letters = "null".toList then some .null
  else if letters = "true".toList then some (.bool true)
  else if letters = "false".toList then some (.bool false)
  else none

def dropDigits (cs : List Char) : List Char := cs.dropWhile isDigit

/-- A non-empty run of digits up to the end. -/
def endsInDigits (cs : List Char) : Bool := !cs.isEmpty && (dropDigits cs).isEmpty

def isExponent : List Char → Bool
  | [] => true
  | c :: cs =>
    (c == 'e' || c == 'E') &&
      match cs with
      | '+' :: ds => endsInDigits ds
      | '-' :: ds => endsInDigits ds
      | ds => endsInDigits ds

def isFractionAndExponent : List Char → Bool
  | '.' :: c :: cs => isDigit c && isExponent (dropDigits cs)
  | cs => isExponent cs

def isUnsignedNumber : List Char → Bool
  | '0' :: cs => isFractionAndExponent cs
  | c :: cs => isDigit c && isFractionAndExponent (dropDigits cs)
  | [] => false

/-- The number grammar: no plus sign, no leading zero, digits on both sides of the point. -/
def isNumber : List Char → Bool
  | '-' :: cs => isUnsignedNumber cs
  | cs => isUnsignedNumber cs

/-- The character that an escape of one letter stands for. -/
def escaped? (c : Char) : Option Char :=
  match c with
  | '"' => some '"'
  | '\\' => some '\\'
  | '/' => some '/'
  | 'b' => some (Char.ofNat 8)
  | 'f' => some (Char.ofNat 12)
  | 'n' => some '\n'
  | 'r' => some '\r'
  | 't' => some '\t'
  | _ => none

/-- Begins a token, or skips a blank. -/
def begin (tokens : List Token) (c : Char) : Option (Reading × List Token) :=
  if isJsonBlank c then some (.between, tokens)
  else if c = '\x7b' then some (.between, .openBrace :: tokens)
  else if c = '\x7d' then some (.between, .closeBrace :: tokens)
  else if c = '[' then some (.between, .openBracket :: tokens)
  else if c = ']' then some (.between, .closeBracket :: tokens)
  else if c = ':' then some (.between, .colon :: tokens)
  else if c = ',' then some (.between, .comma :: tokens)
  else if c = '"' then some (.str [], tokens)
  else if isNumberPart c && c != 'e' then some (.num [c], tokens)
  else if isWordPart c then some (.word [c], tokens)
  else none

def endWord (tokens : List Token) (letters : List Char) : Option (List Token) := do
  let value ← wordValue? letters.reverse
  return .word value :: tokens

def endNumber (tokens : List Token) (digits : List Char) : Option (List Token) :=
  if isNumber digits.reverse then some (.num digits.reverse :: tokens) else none

/-- One character, or a gap, further. -/
def advance : Reading × List Token → Option Char → Option (Reading × List Token)
  | (.between, tokens), some c => begin tokens c
  | (.word letters, tokens), some c =>
    if isWordPart c then some (.word (c :: letters), tokens)
    else do begin (← endWord tokens letters) c
  | (.num digits, tokens), some c =>
    if isNumberPart c then some (.num (c :: digits), tokens)
    else do begin (← endNumber tokens digits) c
  | (.str units, tokens), some c =>
    if c = '"' then some (.between, .str (textOfUnits [] units) :: tokens)
    else if c = '\\' then some (.escape units, tokens)
    else if c.toNat < 32 then none
    else some (.str (.char c :: units), tokens)
  | (.str units, tokens), none => some (.str (.gap :: units), tokens)
  | (.escape units, tokens), some c =>
    if c = 'u' then some (.code units 4 0, tokens)
    else (escaped? c).map fun e => (.str (.char e :: units), tokens)
  | (.code units missing value, tokens), some c => do
    let digit ← hexValue? c
    let value := value * 16 + digit
    match missing with
    | 0 | 1 =>
      if 0xD800 ≤ value ∧ value ≤ 0xDFFF then some (.str (.half value :: units), tokens)
      else some (.str (.char (Char.ofNat value) :: units), tokens)
    | missing + 1 => some (.code units missing value, tokens)
  | _, none => none

/-- All tokens of a text, in order. -/
def tokens? (cs : List (Option Char)) : Option (List Token) := do
  let (reading, tokens) ← cs.foldlM advance (.between, [])
  let tokens ←
    match reading with
    | .between => some tokens
    | .word letters => endWord tokens letters
    | .num digits => endNumber tokens digits
    | _ => none
  return tokens.reverse

end Gatehouse.Json
