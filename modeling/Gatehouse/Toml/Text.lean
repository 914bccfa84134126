import Gatehouse.Text.Hex
import Gatehouse.Toml.Basic

/-!
# TOML strings and keys

Basic strings know escapes, literal strings do not, and either may run over several lines between triple
marks. Inside triple marks one or two marks are plain text, also right before the closing three.
-/

namespace Gatehouse.Toml

open Gatehouse.Text

/-- The character with a code point, surrogates and numbers beyond the last code point excepted. -/
def scalar? (code : Nat) : Option Char :=
  if code < 0xD800 ∨ (0xDFFF < code ∧ code < 0x110000) then some (Char.ofNat code) else none

def hexCode? (digits : List Char) : Option Nat :=
  digits.foldlM (fun n c => (hexValue? c).map (n * 16 + ·)) 0

/-- The character of an escape, read behind its backslash. -/
def escape? : List Char → Option (Char × List Char)
  | 'u' :: a :: b :: c :: d :: cs => do
    return (← scalar? (← hexCode? [a, b, c, d]), cs)
  | 'U' :: a :: b :: c :: d :: e :: f :: g :: h :: cs => do
    return (← scalar? (← hexCode? [a, b, c, d, e, f, g, h]), cs)
  | '"' :: cs => some ('"', cs)
  | '\\' :: cs => some ('\\', cs)
  | 'b' :: cs => some (Char.ofNat 8, cs)
  | 't' :: cs => some ('\t', cs)
  | 'n' :: cs => some ('\n', cs)
  | 'f' :: cs => some (Char.ofNat 12, cs)
  | 'r' :: cs => some ('\r', cs)
  | _ => none

/-- A basic string behind its opening mark; `read` is what came before, in reverse. -/
def basicFrom (read : List Char) : (fuel : Nat) → List Char → Option (List Char × List Char)
  | 0, _ => none
  | fuel + 1, cs =>
    match cs with
    | [] => none
    | '"' :: cs => some (read.reverse, cs)
    | '\\' :: cs => do
      let (c, cs) ← escape? cs
      basicFrom (c :: read) fuel cs
    | c :: cs => if isPlain c then basicFrom (c :: read) fuel cs else none

def literalFrom (read : List Char) : List Char → Option (List Char × List Char)
  | [] => none
  | '\'' :: cs => some (read.reverse, cs)
  | c :: cs => if isPlain c then literalFrom (c :: read) cs else none

/-- Blanks, a line end, and all blanks and line ends after it: what a backslash at the end of a line
hides. -/
def hiddenBreak? (cs : List Char) : Option (List Char) := do
  let rest ← newline? (skipBlanks cs)
  return dropBreaks rest
where
  dropBreaks : List Char → List Char
    | '\r' :: '\n' :: cs => dropBreaks cs
    | c :: cs => if c == ' ' || c == '\t' || c == '\n' then dropBreaks cs else c :: cs
    | [] => []

/-- A string between triple marks, behind the opening ones. -/
def tripleFrom (mark : Char) (read : List Char) :
    (fuel : Nat) → List Char → Option (List Char × List Char)
  | 0, _ => none
  | fuel + 1, cs =>
    let marks := (cs.takeWhile (· = mark)).length
    if 3 ≤ marks then
      let extra := min (marks - 3) 2
      some ((List.replicate extra mark ++ read).reverse, cs.drop (extra + 3))
    else
      match cs with
      | [] => none
      | '\r' :: '\n' :: cs => tripleFrom mark ('\n' :: read) fuel cs
      | '\n' :: cs => tripleFrom mark ('\n' :: read) fuel cs
      | c :: cs =>
        if c = '\\' ∧ mark = '"' then
          match hiddenBreak? cs with
          | some cs => tripleFrom mark read fuel cs
          | none => do
            let (e, cs) ← escape? cs
            tripleFrom mark (e :: read) fuel cs
        else if isPlain c then tripleFrom mark (c :: read) fuel cs
        else none

/-- A string value of any of the four kinds. -/
def string? (cs : List Char) : Option (List Char × List Char) :=
  match cs with
  | '"' :: '"' :: '"' :: cs => tripleFrom '"' [] (cs.length + 1) ((newline? cs).getD cs)
  | '\'' :: '\'' :: '\'' :: cs => tripleFrom '\'' [] (cs.length + 1) ((newline? cs).getD cs)
  | '"' :: cs => basicFrom [] (cs.length + 1) cs
  | '\'' :: cs => literalFrom [] cs
  | _ => none

def isBareKeyChar (c : Char) : Bool :=
  ('a' ≤ c && c ≤ 'z') || ('A' ≤ c && c ≤ 'Z') || isDigit c || c == '_' || c == '-'

def simpleKey? (cs : List Char) : Option (String × List Char) :=
  match cs with
  | '"' :: cs => (basicFrom [] (cs.length + 1) cs).map fun p => (String.ofList p.1, p.2)
  | '\'' :: cs => (literalFrom [] cs).map fun p => (String.ofList p.1, p.2)
  | cs =>
    let word := cs.takeWhile isBareKeyChar
    if word = [] then none else some (String.ofList word, cs.drop word.length)

/-- Keys joined by dots, with blanks around each. -/
def dottedKey? : (fuel : Nat) → List Char → Option (List String × List Char)
  | 0, _ => none
  | fuel + 1, cs => do
    let (key, cs) ← simpleKey? (skipBlanks cs)
    match skipBlanks cs with
    | '.' :: cs => do
      let (keys, cs) ← dottedKey? fuel cs
      return (key :: keys, cs)
    | cs => some ([key], cs)

def key? (cs : List Char) : Option (List String × List Char) := dottedKey? (nestingLimit - 1) cs

end Gatehouse.Toml
