/-!
# JSON values

Values as they were written. A number keeps its digits, an object keeps its members in order and may name
one twice, and a string that spells no text (a lone half of a surrogate pair, stray bytes) is kept as such:
whoever skips it need not care, whoever needs its text is refused.
-/

namespace Gatehouse

inductive Json where
  | null
  | bool (value : Bool)
  | num (digits : List Char)
  | str (text : Option (List Char))
  | arr (items : List Json)
  | obj (members : List (Option (List Char) × Json))

namespace Json

instance : Inhabited Json := ⟨.null⟩

def text (s : String) : Json := .str (some s.toList)

def nat (n : Nat) : Json := .num (Nat.toDigits 10 n)

def int (n : Int) : Json :=
  .num (if n < 0 then '-' :: Nat.toDigits 10 n.natAbs else Nat.toDigits 10 n.natAbs)

def record (members : List (String × Json)) : Json :=
  .obj (members.map fun m => (some m.1.toList, m.2))

end Json

end Gatehouse
