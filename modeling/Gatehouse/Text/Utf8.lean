/-!
# Characters and bytes

Text travels as bytes in UTF-8. Bytes that spell characters are read as those characters; a byte that belongs
to no character is kept as a gap, so that what surrounds it can still be read.
-/

namespace Gatehouse.Text

/-- The bytes that spell a text. -/
def utf8 (s : String) : List UInt8 := s.toUTF8.data.toList

theorem utf8_inj {s t : String} : utf8 s = utf8 t ↔ s = t := by
  rw [← String.toByteArray_inj]
  constructor
  · exact fun h => ByteArray.ext (Array.toList_inj.1 h)
  · exact fun h => congrArg (fun b => b.data.toList) h

def isContinuation (b : UInt8) : Bool := 0x80 ≤ b && b ≤ 0xBF

/-- The character that a run of bytes begins with, and what follows it. Overlong forms, surrogates and
numbers beyond the last code point spell no character. -/
def leadingChar? : List UInt8 → Option (Char × List UInt8)
  | [] => none
  | a :: rest =>
    if a < 0x80 then some (Char.ofNat a.toNat, rest)
    else
      match rest with
      | [] => none
      | b :: rest =>
        if 0xC2 ≤ a ∧ a ≤ 0xDF ∧ isContinuation b then
          some (Char.ofNat ((a.toNat - 0xC0) * 64 + (b.toNat - 0x80)), rest)
        else
          match rest with
          | [] => none
          | c :: rest =>
            if 0xE0 ≤ a ∧ a ≤ 0xEF ∧ isContinuation b ∧ isContinuation c ∧
                (a = 0xE0 → 0xA0 ≤ b) ∧ (a = 0xED → b ≤ 0x9F) then
              some (Char.ofNat ((a.toNat - 0xE0) * 4096 + (b.toNat - 0x80) * 64 + (c.toNat - 0x80)), rest)
            else
              match rest with
              | [] => none
              | d :: rest =>
                if 0xF0 ≤ a ∧ a ≤ 0xF4 ∧ isContinuation b ∧ isContinuation c ∧ isContinuation d ∧
                    (a = 0xF0 → 0x90 ≤ b) ∧ (a = 0xF4 → b ≤ 0x8F) then
                  some (Char.ofNat ((a.toNat - 0xF0) * 262144 + (b.toNat - 0x80) * 4096 +
                    (c.toNat - 0x80) * 64 + (d.toNat - 0x80)), rest)
                else none

theorem leadingChar?_length {bytes rest : List UInt8} {c : Char}
    (h : leadingChar? bytes = some (c, rest)) : rest.length < bytes.length := by
  unfold leadingChar? at h
  repeat' split at h
  all_goals simp_all
  all_goals (obtain ⟨-, rfl⟩ := h; simp +arith)

/-- Reads on, with what has been read so far in reverse. -/
def readWithGaps (read : List (Option Char)) (bytes : List UInt8) : List (Option Char) :=
  match h : leadingChar? bytes with
  | some (c, rest) =>
    have _ := leadingChar?_length h
    readWithGaps (some c :: read) rest
  | none =>
    match bytes with
    | [] => read.reverse
    | _ :: rest => readWithGaps (none :: read) rest
termination_by bytes.length

/-- The characters of a run of bytes, with a gap for every byte that is part of none. -/
def charsWithGaps (bytes : List UInt8) : List (Option Char) := readWithGaps [] bytes

/-- The text that a run of bytes spells, if all of them belong to characters. -/
def utf8? (bytes : List UInt8) : Option (List Char) := (charsWithGaps bytes).mapM id

end Gatehouse.Text
