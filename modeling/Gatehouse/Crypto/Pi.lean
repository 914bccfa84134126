/-!
# The binary digits of pi

The fractional part of pi in words of 32 bits, by the formula of Machin: a quarter of pi is four times the
angle of slope 1/5 less the angle of slope 1/239. The series are summed in whole numbers with spare bits.
-/

namespace Gatehouse.Crypto

/-- `scale` times the angle of slope 1/x, with every term of the series rounded down; `fuel` bounds the
number of terms. -/
def angleTerms (x : Nat) : (fuel : Nat) → (k power : Nat) → (sum : Int) → Int
  | 0, _, _, sum => sum
  | fuel + 1, k, power, sum =>
    if power = 0 then sum
    else
      let term : Int := power / (2 * k + 1)
      angleTerms x fuel (k + 1) (power / (x * x)) (if k % 2 = 0 then sum + term else sum - term)

def angle (scale x : Nat) : Int := angleTerms x (scale.log2 + 1) 0 (scale / x) 0

/-- The first bits of the fractional part of pi. -/
def piFraction (bits : Nat) : Nat :=
  let scale := Nat.pow 2 (bits + 64)
  (16 * angle scale 5 - 4 * angle scale 239).toNat % scale / Nat.pow 2 64

/-- The first words of the fractional part of pi. -/
def piWords (count : Nat) : List UInt32 :=
  let fraction := piFraction (32 * count)
  (List.range count).map fun i => UInt32.ofNat (fraction / Nat.pow 2 (32 * (count - 1 - i)) % Nat.pow 2 32)

end Gatehouse.Crypto
