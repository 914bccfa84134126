/-!
# Decimal numerals

Reading and writing whole numbers in decimal. A numeral is a non-empty run of ASCII digits, with a sign
where the reader allows one, and a reader with a bound refuses a number beyond it.
-/

namespace Gatehouse.Text

def isDigit (c : Char) : Bool := '0' ≤ c && c ≤ '9'

def decimal (n : Nat) : List Char := Nat.toDigits 10 n

def decimalInt (n : Int) : List Char :=
  if n < 0 then '-' :: decimal n.natAbs else decimal n.natAbs

/-- At least `width` digits, padded with zeros. -/
def padded (width : Nat) (n : Nat) : List Char :=
  List.replicate (width - (decimal n).length) '0' ++ decimal n

def numeralValue (digits : List Char) : Nat := Nat.ofDigitChars 10 digits 0

def digits? (cs : List Char) : Option Nat :=
  if cs ≠ [] ∧ cs.all isDigit then some (numeralValue cs) else none

/-- A whole number up to `limit`, with an optional plus sign. -/
def natUpTo? (limit : Nat) (cs : List Char) : Option Nat := do
  let n ← digits? (if cs.head? = some '+' then cs.tail else cs)
  if n ≤ limit then some n else none

/-- A number of 64 bits with an optional sign. -/
def int64? (cs : List Char) : Option Int :=
  match cs with
  | '-' :: ds => do
    let n ← digits? ds
    if n ≤ Nat.pow 2 63 then some (-(n : Int)) else none
  | _ => (natUpTo? (Nat.pow 2 63 - 1) cs).map Int.ofNat

theorem isDigit_of_mem_decimal {n : Nat} {c : Char} (h : c ∈ decimal n) : isDigit c = true := by
  have hdigit := Nat.isDigit_of_mem_toDigits (by decide) (by decide) h
  simp only [Char.isDigit, Bool.and_eq_true, decide_eq_true_eq] at hdigit
  simp only [isDigit, Bool.and_eq_true, decide_eq_true_eq]
  exact hdigit

theorem digits?_decimal (n : Nat) : digits? (decimal n) = some n := by
  have nonempty : decimal n ≠ [] := Nat.toDigits_ne_nil
  have digits : (decimal n).all isDigit := List.all_eq_true.2 fun _ => isDigit_of_mem_decimal
  rw [digits?, if_pos ⟨nonempty, digits⟩, numeralValue, decimal,
    Nat.ofDigitChars_toDigits (by decide) (by decide)]

end Gatehouse.Text
