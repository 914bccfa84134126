import Gatehouse.Json.Basic
import Gatehouse.Procedure
import Gatehouse.Text.Numeral
import Gatehouse.Token

/-!
# Mentioning tokens

What is tried on a stage may mention the tokens that came up before by their number: `{g0}` stands for the
first. A mention of a token that has not come up stays as it is.
-/

namespace Gatehouse

open Text

/-- The number of a mention and the text behind it, read after its opening brace. -/
def mention? (cs : List Char) : Option (Nat × List Char) :=
  match cs with
  | 'g' :: cs => do
    let digits := cs.takeWhile isDigit
    let n ← digits? digits
    match cs.drop digits.length with
    | '\x7d' :: rest => if decimal n = digits then some (n, rest) else none
    | _ => none
  | _ => none

/-- Puts tokens in place of their mentions; `fuel` bounds the length of the text. -/
def fillInFrom (tokens : List String) : (fuel : Nat) → List Char → List Char
  | 0, cs => cs
  | _, [] => []
  | fuel + 1, c :: cs =>
    if c = '\x7b' then
      match mention? cs with
      | some (n, rest) =>
        match tokens[n]? with
        | some t => t.toList ++ fillInFrom tokens fuel rest
        | none => c :: fillInFrom tokens fuel cs
      | none => c :: fillInFrom tokens fuel cs
    else c :: fillInFrom tokens fuel cs

def fillIn (tokens : List String) (cs : List Char) : List Char := fillInFrom tokens cs.length cs

mutual

/-- Puts tokens in place of their mentions in every text of a value. -/
def fillInJson (tokens : List String) : Json → Json
  | .str text => .str (text.map (fillIn tokens))
  | .arr items => .arr (fillInItems tokens items)
  | .obj members => .obj (fillInMembers tokens members)
  | v => v

def fillInItems (tokens : List String) : List Json → List Json
  | [] => []
  | v :: vs => fillInJson tokens v :: fillInItems tokens vs

def fillInMembers (tokens : List String) :
    List (Option (List Char) × Json) → List (Option (List Char) × Json)
  | [] => []
  | (key, v) :: ms => (key, fillInJson tokens v) :: fillInMembers tokens ms

end

/-- The lengths of the tokens that calls ask for, in order. -/
def tokenLengths (calls : List Call) : List Nat :=
  calls.filterMap fun
    | .generate bytes => some bytes
    | _ => none

/-- The tokens that calls are answered with, given the source as it was before them. -/
def tokensOf (source : TokenSource) (calls : List Call) : List String :=
  (tokenLengths calls).zipIdx.map fun p => source.text (source.issued + p.2) p.1

end Gatehouse
