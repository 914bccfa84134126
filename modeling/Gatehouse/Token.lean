import Gatehouse.Crypto.Sha256
import Gatehouse.Text.Blank
import Gatehouse.Text.Utf8

/-!
# Tokens

A token is random bytes in hexadecimal. Of an API key only the hash is kept. Secrets are compared byte by
byte to the end, so that how long it takes says nothing about where they differ.
-/

namespace Gatehouse

/-- The hash under which a token is filed; blanks around the token do not count. -/
def tokenHash (token : String) : String := Crypto.sha256Hex (Text.trim token)

/-- The bits in which two runs of bytes of one length differ, gathered in one byte. -/
def differences (a b : List UInt8) : UInt8 := (List.zipWith (· ^^^ ·) a b).foldl (· ||| ·) 0

def sameBytes (a b : List UInt8) : Bool := a.length == b.length && differences a b == 0

def sameSecret (a b : String) : Bool := sameBytes (Text.utf8 a) (Text.utf8 b)

theorem foldl_or_zipWith_xor_eq_zero_iff {a b : List UInt8} (h : a.length = b.length) (seen : UInt8) :
    (List.zipWith (· ^^^ ·) a b).foldl (· ||| ·) seen = 0 ↔ seen = 0 ∧ a = b := by
  induction a generalizing b seen with
  | nil =>
    cases b with
    | nil => simp
    | cons _ _ => simp at h
  | cons x a ih =>
    cases b with
    | nil => simp at h
    | cons y b =>
      have tails : a.length = b.length := by simpa using h
      simp only [List.zipWith_cons_cons, List.foldl_cons, ih tails, UInt8.or_eq_zero_iff,
        UInt8.xor_eq_zero_iff, List.cons.injEq, and_assoc]

theorem sameBytes_iff {a b : List UInt8} : sameBytes a b ↔ a = b := by
  by_cases h : a.length = b.length
  · simp [sameBytes, differences, h, foldl_or_zipWith_xor_eq_zero_iff h]
  · simp only [sameBytes, beq_eq_false_iff_ne.2 h, Bool.false_and, Bool.false_eq_true, false_iff]
    exact fun e => h (congrArg List.length e)

theorem sameSecret_iff {a b : String} : sameSecret a b ↔ a = b := by
  rw [sameSecret, sameBytes_iff, Text.utf8_inj]

/-- A source of tokens: the text of the next token depends on how many came before and on its length in
bytes. -/
structure TokenSource where
  text : Nat → Nat → String
  issued : Nat := 0

namespace TokenSource

def next (s : TokenSource) (bytes : Nat) : String × TokenSource :=
  (s.text s.issued bytes, { s with issued := s.issued + 1 })

end TokenSource

end Gatehouse
