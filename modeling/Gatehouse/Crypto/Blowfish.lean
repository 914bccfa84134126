import Gatehouse.Crypto.Pi

/-!
# The Blowfish cipher

Sixteen rounds on two words, with eighteen round keys and four boxes of 256 words. All of them start as
digits of pi and are replaced, pair by pair, by what the cipher itself produces while a key is worked in.
-/

namespace Gatehouse.Crypto

structure Blowfish where
  keys : Array UInt32
  boxes : Array UInt32

namespace Blowfish

def initial : Blowfish :=
  let words := piWords 1042
  ⟨(words.take 18).toArray, (words.drop 18).toArray⟩

def mix (c : Blowfish) (x : UInt32) : UInt32 :=
  let box (n : Nat) (byte : UInt32) := c.boxes.getD (256 * n + (byte &&& 0xFF).toNat) 0
  ((box 0 (x >>> 24) + box 1 (x >>> 16)) ^^^ box 2 (x >>> 8)) + box 3 x

/-- The rounds from number `i` on. Each swaps the words. -/
def rounds (c : Blowfish) : (left : Nat) → (i : Nat) → (l r : UInt32) → UInt32 × UInt32
  | 0, _, l, r => (l, r)
  | left + 1, i, l, r =>
    let l := l ^^^ c.keys.getD i 0
    rounds c left (i + 1) (r ^^^ c.mix l) l

def encrypt (c : Blowfish) (l r : UInt32) : UInt32 × UInt32 :=
  let (l, r) := c.rounds 16 0 l r
  (r ^^^ c.keys.getD 17 0, l ^^^ c.keys.getD 16 0)

/-- The words of a run of bytes that is repeated without end. -/
def cyclicWord (bytes : Array UInt8) (i : Nat) : UInt32 :=
  let byte (k : Nat) := (bytes.getD ((4 * i + k) % bytes.size) 0).toUInt32
  (byte 0 <<< 24) ||| (byte 1 <<< 16) ||| (byte 2 <<< 8) ||| byte 3

def addKey (c : Blowfish) (key : Array UInt8) : Blowfish :=
  { c with keys := c.keys.mapIdx fun i k => k ^^^ cyclicWord key i }

/-- A word of the salt, or zero if there is none. -/
def saltWord (salt : Array UInt8) (i : Nat) : UInt32 :=
  if salt.size = 0 then 0 else cyclicWord salt i

/-- Replaces the keys from pair `i` on. -/
def refillKeys (salt : Array UInt8) : (left : Nat) → (i : Nat) → Blowfish → UInt32 → UInt32 →
    Blowfish × UInt32 × UInt32
  | 0, _, c, l, r => (c, l, r)
  | left + 1, i, c, l, r =>
    let (l, r) := c.encrypt (l ^^^ saltWord salt (2 * i)) (r ^^^ saltWord salt (2 * i + 1))
    refillKeys salt left (i + 1)
      { c with keys := (c.keys.setIfInBounds (2 * i) l).setIfInBounds (2 * i + 1) r } l r

/-- Replaces the boxes from pair `i` on. The salt goes on where the keys left off. -/
def refillBoxes (salt : Array UInt8) : (left : Nat) → (i : Nat) → Blowfish → UInt32 → UInt32 → Blowfish
  | 0, _, c, _, _ => c
  | left + 1, i, c, l, r =>
    let (l, r) := c.encrypt (l ^^^ saltWord salt (2 * i + 18)) (r ^^^ saltWord salt (2 * i + 19))
    refillBoxes salt left (i + 1)
      { c with boxes := (c.boxes.setIfInBounds (2 * i) l).setIfInBounds (2 * i + 1) r } l r

/-- Works a key and a salt into the state. -/
def expand (c : Blowfish) (salt key : Array UInt8) : Blowfish :=
  let (c, l, r) := refillKeys salt 9 0 (c.addKey key) 0 0
  refillBoxes salt 512 0 c l r

/-- Works a key and a salt in by turns, `count` times. -/
def expandTurns (salt key : Array UInt8) : (count : Nat) → Blowfish → Blowfish
  | 0, c => c
  | count + 1, c => expandTurns salt key count ((c.expand #[] key).expand #[] salt)

/-- Encrypts a pair of words again and again. -/
def encryptTimes (c : Blowfish) : (count : Nat) → UInt32 × UInt32 → UInt32 × UInt32
  | 0, p => p
  | count + 1, p => encryptTimes c count (c.encrypt p.1 p.2)

end Blowfish

end Gatehouse.Crypto
