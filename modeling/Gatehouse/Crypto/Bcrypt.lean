import Gatehouse.Crypto.Blowfish
import Gatehouse.Crypto.Sha256
import Gatehouse.Text.Numeral
import Gatehouse.Text.Split

/-!
# Password hashes

A hash is written as `$2b$cost$` and 53 characters: 22 for a salt of 16 bytes, 31 for 23 bytes of what the
cipher makes of a fixed text under a key set up from the password and the salt, 2 ^ cost times over. A
password counts up to its first 72 bytes, the NUL at its end included. Text that is no hash matches no
password.
-/

namespace Gatehouse.Crypto

open Gatehouse.Text

namespace Bcrypt

/-- The six bits of a character. -/
def sextet? (c : Char) : Option Nat :=
  if c = '.' then some 0
  else if c = '/' then some 1
  else if 'A' ≤ c ∧ c ≤ 'Z' then some (c.toNat - 65 + 2)
  else if 'a' ≤ c ∧ c ≤ 'z' then some (c.toNat - 97 + 28)
  else if '0' ≤ c ∧ c ≤ '9' then some (c.toNat - 48 + 54)
  else none

/-- Bytes from sextets. Bits left over at the end are zero. -/
def bytes? : List Nat → Option (List UInt8)
  | [] => some []
  | [_] => none
  | [a, b] => if b % 16 = 0 then some [UInt8.ofNat (a * 4 + b / 16)] else none
  | [a, b, c] =>
    if c % 4 = 0 then some [UInt8.ofNat (a * 4 + b / 16), UInt8.ofNat (b % 16 * 16 + c / 4)] else none
  | a :: b :: c :: d :: rest => do
    let bytes ← bytes? rest
    return UInt8.ofNat (a * 4 + b / 16) :: UInt8.ofNat (b % 16 * 16 + c / 4) ::
      UInt8.ofNat (c % 4 * 64 + d) :: bytes

def decode? (cs : List Char) : Option (List UInt8) := do bytes? (← cs.mapM sextet?)

structure Hash where
  cost : Nat
  salt : List UInt8
  digest : List UInt8

def Hash.ofChars? (cs : List Char) : Option Hash :=
  match (pieces '$' cs).filter (· ≠ []) with
  | [version, cost, body] => do
    let cost ← natUpTo? (Nat.pow 2 32 - 1) cost
    if version ∈ ["2a".toList, "2b".toList, "2x".toList, "2y".toList] ∧ 4 ≤ cost ∧ cost ≤ 31 ∧
        body.length = 53 then
      return ⟨cost, ← decode? (body.take 22), ← decode? (body.drop 22)⟩
    else none
  | _ => none

/-- The password's bytes with a NUL behind them, 72 at most. -/
def key (password : String) : List UInt8 := (utf8 password ++ [0]).take 72

/-- The text that is encrypted: `OrpheanBeholderScryDoubt`. -/
def plaintext : List (UInt32 × UInt32) :=
  [(0x4f727068, 0x65616e42), (0x65686f6c, 0x64657253), (0x63727944, 0x6f756274)]

def digest (cost : Nat) (salt key : List UInt8) : List UInt8 :=
  let salt := salt.toArray
  let key := key.toArray
  let c := Blowfish.expandTurns salt key (Nat.pow 2 cost) (Blowfish.initial.expand salt key)
  (plaintext.flatMap fun pair =>
    let (l, r) := c.encryptTimes 64 pair
    Sha256.bytesOf l ++ Sha256.bytesOf r).take 23

end Bcrypt

/-- Whether a password has a given hash. -/
def bcryptMatches (password hash : String) : Bool :=
  match Bcrypt.Hash.ofChars? hash.toList with
  | some h => Bcrypt.digest h.cost h.salt (Bcrypt.key password) == h.digest
  | none => false

end Gatehouse.Crypto
