import Gatehouse.Json.Token

/-!
# Reading JSON

Tokens are read with a stack of the arrays and objects that are still open, so nesting may go to any
depth. The reader keeps what may come next beside the stack and accepts when one value is complete and
nothing is open.
-/

namespace Gatehouse.Json

/-- An open array or object, with its finished parts in reverse. An object is open either before a key or
in the middle of a member. -/
inductive Frame where
  | arr (done : List Json)
  | obj (done : List (Option (List Char) × Json))
  | member (done : List (Option (List Char) × Json)) (key : Option (List Char))

inductive Expects where
  | value
  | valueOrEnd
  | key
  | keyOrEnd
  | colon (key : Option (List Char))
  | after (value : Json)

def Token.scalar? : Token → Option Json
  | .word value => some value
  | .num digits => some (.num digits)
  | .str text => some (.str text)
  | _ => none

def beginValue (stack : List Frame) (t : Token) : Option (Expects × List Frame) :=
  match t with
  | .openBracket => some (.valueOrEnd, .arr [] :: stack)
  | .openBrace => some (.keyOrEnd, .obj [] :: stack)
  | t => t.scalar?.map fun v => (.after v, stack)

def step : Expects × List Frame → Token → Option (Expects × List Frame)
  | (.value, stack), t => beginValue stack t
  | (.valueOrEnd, .arr _ :: stack), .closeBracket => some (.after (.arr []), stack)
  | (.valueOrEnd, stack), t => beginValue stack t
  | (.keyOrEnd, .obj _ :: stack), .closeBrace => some (.after (.obj []), stack)
  | (.keyOrEnd, stack), .str key => some (.colon key, stack)
  | (.key, stack), .str key => some (.colon key, stack)
  | (.colon key, .obj done :: stack), .colon => some (.value, .member done key :: stack)
  | (.after v, .arr done :: stack), .comma => some (.value, .arr (v :: done) :: stack)
  | (.after v, .arr done :: stack), .closeBracket => some (.after (.arr (v :: done).reverse), stack)
  | (.after v, .member done key :: stack), .comma => some (.key, .obj ((key, v) :: done) :: stack)
  | (.after v, .member done key :: stack), .closeBrace =>
    some (.after (.obj ((key, v) :: done).reverse), stack)
  | _, _ => none

def ofTokens? (tokens : List Token) : Option Json := do
  match ← tokens.foldlM step (.value, []) with
  | (.after v, []) => some v
  | _ => none

def read? (cs : List (Option Char)) : Option Json := do ofTokens? (← tokens? cs)

def ofText? (s : String) : Option Json := read? (s.toList.map some)

def ofBytes? (bytes : List UInt8) : Option Json := read? (Text.charsWithGaps bytes)

end Gatehouse.Json
