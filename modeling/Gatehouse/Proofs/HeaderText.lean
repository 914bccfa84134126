import Gatehouse.Http.Header
import Mathlib.Tactic.Lemma

/-!
# Text in headers

A header carries the bytes of a text. Read again as text they are either what they were made of, or no text
at all, and that takes only a look at each character: the bytes of one beyond ASCII are no text.
-/

namespace Gatehouse.Proofs
open Http

/-- Visible ASCII, blanks and tabs. -/
def isTextChar (c : Char) : Bool := (0x20 ≤ c.toNat && c.toNat ≤ 0x7E) || c == '\t'

lemma utf8_eq_flatMap (s : String) : Text.utf8 s = s.toList.flatMap String.utf8EncodeChar := by
  have hbytes : (s.toList.flatMap String.utf8EncodeChar).toByteArray = s.toByteArray := by
    conv => rhs; rw [← String.ofList_toList (s := s)]
    rfl
  show s.toByteArray.data.toList = _
  rw [← hbytes, List.data_toByteArray]

lemma not_isTextByte {b : UInt8} (h : 128 ≤ b.toNat) : isTextByte b = false := by
  have hhigh : ¬ b ≤ 0x7E := by
    intro hle
    have hle : b.toNat ≤ 126 := UInt8.le_iff_toNat_le.1 hle
    omega
  have htab : b ≠ 0x09 := by
    intro heq
    rw [heq] at h
    exact absurd h (by decide)
  simp [isTextByte, hhigh, htab]

lemma utf8EncodeChar_of_ascii {c : Char} (h : c.toNat ≤ 127) :
    String.utf8EncodeChar c = [UInt8.ofNat c.toNat] := by
  show (if c.toNat ≤ 127 then _ else _) = _
  rw [if_pos h]
  rfl

/-- The bytes of a character beyond ASCII begin with one that is no text. -/
lemma utf8EncodeChar_beyond_ascii {c : Char} (h : 127 < c.toNat) :
    (String.utf8EncodeChar c).all isTextByte = false := by
  have hfirst : ∀ n rest, 128 ≤ n % 256 → (UInt8.ofNat n :: rest).all isTextByte = false := by
    intro n rest hn
    rw [List.all_cons, not_isTextByte (by rw [UInt8.toNat_ofNat']; exact hn), Bool.false_and]
  show ((if c.toNat ≤ 127 then _ else if c.toNat ≤ 2047 then _ else if c.toNat ≤ 65535 then _ else _) :
    List UInt8).all isTextByte = false
  rw [if_neg (by omega)]
  split
  · exact hfirst _ _ (by omega)
  split
  · exact hfirst _ _ (by omega)
  · exact hfirst _ _ (by omega)

lemma isTextByte_ofNat {c : Char} (h : c.toNat ≤ 127) : isTextByte (UInt8.ofNat c.toNat) = isTextChar c := by
  have hnat : (UInt8.ofNat c.toNat).toNat = c.toNat := by
    rw [UInt8.toNat_ofNat']
    omega
  have htab : UInt8.ofNat c.toNat = 0x09 ↔ c = '\t' := by
    rw [← UInt8.toNat_inj, hnat, ← Char.toNat_inj]
    rfl
  rw [Bool.eq_iff_iff]
  simp only [isTextByte, isTextChar, Bool.or_eq_true, Bool.and_eq_true, decide_eq_true_eq, beq_iff_eq, htab,
    UInt8.le_iff_toNat_le, hnat]
  rfl

lemma all_isTextByte_utf8EncodeChar (c : Char) :
    (String.utf8EncodeChar c).all isTextByte = isTextChar c := by
  by_cases h : c.toNat ≤ 127
  · rw [utf8EncodeChar_of_ascii h, List.all_cons, List.all_nil, Bool.and_true, isTextByte_ofNat h]
  · have hbeyond : isTextChar c = false := by
      have htab : c ≠ '\t' := by
        intro heq
        rw [heq] at h
        exact h (by decide)
      simp only [isTextChar, beq_eq_false_iff_ne.2 htab, Bool.or_false, Bool.and_eq_false_iff]
      exact Or.inr (decide_eq_false (by omega))
    rw [utf8EncodeChar_beyond_ascii (by omega), hbeyond]

lemma map_ofNat_utf8EncodeChar {c : Char} (h : isTextChar c = true) :
    (String.utf8EncodeChar c).map (fun b => Char.ofNat b.toNat) = [c] := by
  have hascii : c.toNat ≤ 127 := by
    simp only [isTextChar, Bool.or_eq_true, Bool.and_eq_true, decide_eq_true_eq, beq_iff_eq] at h
    rcases h with ⟨_, h⟩ | rfl
    · omega
    · decide
  have hnat : (UInt8.ofNat c.toNat).toNat = c.toNat := by
    rw [UInt8.toNat_ofNat']
    omega
  rw [utf8EncodeChar_of_ascii hascii, List.map_singleton, hnat, Char.ofNat_toNat]

/-- A header value made of a text reads as that text, if each of its characters can be read in a header. -/
lemma textOfValue?_valueOfText (s : String) :
    textOfValue? (valueOfText s) = if s.toList.all isTextChar then some s.toList else none := by
  unfold textOfValue? valueOfText
  have hall : (Text.utf8 s).all isTextByte = s.toList.all isTextChar := by
    rw [utf8_eq_flatMap, List.all_flatMap]
    exact congrArg s.toList.all (funext all_isTextByte_utf8EncodeChar)
  rw [hall]
  by_cases htext : s.toList.all isTextChar = true
  · rw [if_pos htext, if_pos htext, utf8_eq_flatMap, List.map_flatMap]
    refine congrArg some ?_
    rw [List.all_eq_true] at htext
    rw [List.flatMap_def, List.map_congr_left fun c hc => map_ofNat_utf8EncodeChar (htext c hc),
      ← List.flatMap_def]
    exact List.flatMap_singleton' s.toList
  · rw [if_neg htext, if_neg htext]

/-- A byte that can be read in a header is all there is of the character that it is read as. -/
lemma utf8EncodeChar_ofNat {b : UInt8} (h : isTextByte b = true) :
    isTextChar (Char.ofNat b.toNat) = true ∧ String.utf8EncodeChar (Char.ofNat b.toNat) = [b] := by
  have hascii : b.toNat ≤ 127 := by
    refine Nat.le_of_not_lt fun hbeyond => ?_
    rw [not_isTextByte (by omega)] at h
    cases h
  have hnat : (Char.ofNat b.toNat).toNat = b.toNat := by
    unfold Char.ofNat
    rw [dif_pos (Or.inl (by omega))]
    rfl
  have hsame : UInt8.ofNat (Char.ofNat b.toNat).toNat = b := by rw [hnat, UInt8.ofNat_toNat]
  refine ⟨?_, ?_⟩
  · rw [← isTextByte_ofNat (by omega), hsame, h]
  · rw [utf8EncodeChar_of_ascii (by omega), hsame]

lemma textOfValue?_eq_some_iff {value : List UInt8} {cs : List Char} :
    textOfValue? value = some cs ↔ value = valueOfText (String.ofList cs) ∧ cs.all isTextChar = true := by
  constructor
  · intro h
    unfold textOfValue? at h
    split at h
    · rename_i htext
      obtain rfl := Option.some.inj h
      rw [List.all_eq_true] at htext
      refine ⟨?_, ?_⟩
      · have hbytes : value.flatMap (fun b => String.utf8EncodeChar (Char.ofNat b.toNat)) =
            value.flatMap fun b => [b] := by
          rw [List.flatMap_def, List.map_congr_left fun b hb => (utf8EncodeChar_ofNat (htext b hb)).2,
            ← List.flatMap_def]
        unfold valueOfText
        rw [utf8_eq_flatMap, String.toList_ofList, List.flatMap_map, hbytes, List.flatMap_singleton']
      · rw [List.all_map, List.all_eq_true]
        exact fun b hb => (utf8EncodeChar_ofNat (htext b hb)).1
    · cases h
  · rintro ⟨rfl, htext⟩
    rw [textOfValue?_valueOfText, String.toList_ofList, if_pos htext]

end Gatehouse.Proofs
