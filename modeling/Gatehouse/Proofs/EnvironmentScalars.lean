import Gatehouse.Layered.Decoder
import Gatehouse.Layered.Environment
import Gatehouse.Proofs.TimestampReading
import Gatehouse.Proofs.WholeNumerals
import Mathlib.Tactic.SplitIfs

/-!
# What the text of a variable is taken for

A text that reads as a truth value or a number is taken for it, and written out again where a text is
wanted. So it comes back exactly if it is none of these, or is the one that this truth value or number is
written as; blank it never comes back unless it was. The digits of a number come back as this number up to
2 ^ 63, and beyond that if binary floating point holds it.
-/

namespace Gatehouse.Proofs
open Layered Text

variable {v : String} {n : UInt64} {x : Scalar} {cs : List Char} {c : Char}

/-- A scalar where a text is wanted. -/
def written : Scalar → String
  | .nil => ""
  | .boolean b => if b then "true" else "false"
  | .integer n => String.ofList (decimalInt n)
  | .float x => x.text
  | .text v => v

/-- The text of a variable where a text is wanted, after it has been taken for whatever it reads as. -/
def writtenBack (v : String) : String := written (scalarOfText v)

/-- The text is no truth value and no number, or is the one that this truth value or number is written as. -/
structure Verbatim (v : String) : Prop where
  yes : lower v = "true" → v = "true"
  no : lower v = "false" → v = "false"
  integer : ∀ n, int64? v.toList = some n → v.toList = decimalInt n
  float : ∀ x, int64? v.toList = none → Binary64.ofChars? v.toList = some x → v.toList = x.textChars

/-- The number that arrives from the digits of a number. -/
def carried (n : UInt64) : UInt64 :=
  if n.toNat < Nat.pow 2 63 then n else UInt64.ofNat (min (nearestMultiple n.toNat) (Nat.pow 2 64 - 1))

lemma scalarOfText_ne_nil (v : String) : scalarOfText v ≠ .nil := by
  unfold scalarOfText
  repeat' split
  all_goals exact fun h => by cases h

lemma ofList_eq_iff : String.ofList cs = v ↔ v.toList = cs := by
  constructor
  · rintro rfl
    exact String.toList_ofList
  · rintro rfl
    exact String.ofList_toList

lemma verbatim_true : Verbatim "true" where
  yes := fun _ => rfl
  no := fun h => absurd h (by decide +kernel)
  integer := fun n h =>
    absurd (show int64? "true".toList = none by decide +kernel) (h ▸ Option.some_ne_none n)
  float := fun x _ h =>
    absurd (show Binary64.ofChars? "true".toList = none by decide +kernel) (h ▸ Option.some_ne_none x)

lemma verbatim_false : Verbatim "false" where
  yes := fun h => absurd h (by decide +kernel)
  no := fun _ => rfl
  integer := fun n h =>
    absurd (show int64? "false".toList = none by decide +kernel) (h ▸ Option.some_ne_none n)
  float := fun x _ h =>
    absurd (show Binary64.ofChars? "false".toList = none by decide +kernel) (h ▸ Option.some_ne_none x)

lemma writtenBack_eq_iff : writtenBack v = v ↔ Verbatim v := by
  unfold writtenBack scalarOfText
  by_cases htrue : lower v = "true"
  · rw [if_pos htrue]
    constructor
    · rintro rfl
      exact verbatim_true
    · exact fun h => (h.yes htrue).symm
  by_cases hfalse : lower v = "false"
  · rw [if_neg htrue, if_pos hfalse]
    constructor
    · rintro rfl
      exact verbatim_false
    · exact fun h => (h.no hfalse).symm
  rw [if_neg htrue, if_neg hfalse]
  cases hinteger : int64? v.toList with
  | some n =>
    constructor
    · intro h
      refine ⟨fun heq => absurd heq htrue, fun heq => absurd heq hfalse, fun n' hn' => ?_, fun _ hnone => ?_⟩
      · obtain rfl := Option.some.inj (hinteger.symm.trans hn')
        exact ofList_eq_iff.1 h
      · rw [hinteger] at hnone
        cases hnone
    · exact fun h => ofList_eq_iff.2 (h.integer n hinteger)
  | none =>
    cases hfloat : Binary64.ofChars? v.toList with
    | some x =>
      constructor
      · intro h
        refine ⟨fun heq => absurd heq htrue, fun heq => absurd heq hfalse, fun _ hn => ?_, fun x' _ hx' => ?_⟩
        · rw [hinteger] at hn
          cases hn
        · obtain rfl := Option.some.inj (hfloat.symm.trans hx')
          exact ofList_eq_iff.1 h
      · exact fun h => ofList_eq_iff.2 (h.float x hinteger hfloat)
    | none =>
      refine iff_of_true rfl
        ⟨fun heq => absurd heq htrue, fun heq => absurd heq hfalse, fun _ hn => ?_, fun _ _ hx => ?_⟩
      · rw [hinteger] at hn
        cases hn
      · rw [hfloat] at hx
        cases hx

lemma digits?_eq_none (hdigit : isDigit c = false) (cs : List Char) : digits? (c :: cs) = none := by
  refine if_neg fun h => ?_
  rw [List.all_cons, hdigit] at h
  cases h.2

section Plain

variable (hdigit : isDigit c = false) (hmark : c ∉ ['-', '+', '.'])
include hdigit hmark

lemma int64?_eq_none (cs : List Char) : int64? (c :: cs) = none := by
  unfold int64?
  split
  · rename_i heq
    exact absurd (by rw [(List.cons.inj heq).1]; decide) hmark
  · have hplus : ¬ (c :: cs).head? = some '+' := by
      intro h
      exact absurd (by rw [Option.some.inj h]; decide) hmark
    unfold natUpTo?
    rw [if_neg hplus, digits?_eq_none hdigit]
    rfl

lemma unsigned?_eq_none (cs : List Char) : Binary64.unsigned? false (c :: cs) = none := by
  have hwhole : (c :: cs).takeWhile isDigit = [] := by
    rw [List.takeWhile_cons, hdigit]
    rfl
  unfold Binary64.unsigned?
  simp only [hwhole, List.length_nil, List.drop_zero]
  split
  · rename_i heq
    exact absurd (by rw [(List.cons.inj heq).1]; decide) hmark
  · rfl

lemma ofChars?_eq_none
    (hword : (c :: cs).map Char.toLower ∉ ["inf".toList, "infinity".toList, "nan".toList]) :
    Binary64.ofChars? (c :: cs) = none := by
  simp only [List.mem_cons, List.not_mem_nil, or_false, not_or] at hword
  unfold Binary64.ofChars?
  split
  · rename_i heq
    exact absurd (by rw [(List.cons.inj heq).1]; decide) hmark
  · rename_i heq
    exact absurd (by rw [(List.cons.inj heq).1]; decide) hmark
  · unfold Binary64.magnitude?
    dsimp only
    rw [if_neg (not_or.2 ⟨hword.1, hword.2.1⟩), if_neg hword.2.2, unsigned?_eq_none hdigit hmark]

/-- What begins like no number, and is none of the words for truth values and numbers, is verbatim. -/
lemma verbatim_of_head (hv : v.toList = c :: cs) (htruth : lower v ∉ ["true", "false"])
    (hword : (c :: cs).map Char.toLower ∉ ["inf".toList, "infinity".toList, "nan".toList]) : Verbatim v where
  yes := fun h => absurd (by rw [h]; decide) htruth
  no := fun h => absurd (by rw [h]; decide) htruth
  integer := fun n h => by
    rw [hv, int64?_eq_none hdigit hmark] at h
    cases h
  float := fun x _ h => by
    rw [hv, ofChars?_eq_none hdigit hmark hword] at h
    cases h

end Plain

lemma not_isBlankText (h : ∃ c ∈ cs, isBlank c = false) : isBlankText (String.ofList cs) = false := by
  obtain ⟨c, hc, hblank⟩ := h
  unfold isBlankText
  rw [String.toList_ofList, List.all_eq_false]
  exact ⟨c, hc, by rw [hblank]; exact Bool.false_ne_true⟩

lemma exists_digit_decimal (n : Nat) : ∃ c ∈ decimal n, isDigit c = true := by
  obtain ⟨c, cs, h, hc⟩ := decimal_eq_cons n
  exact ⟨c, h ▸ List.mem_cons_self, hc⟩

lemma exists_digit_whole (places digits : Nat) :
    ∃ c ∈ (padded (places + 1) digits).take ((padded (places + 1) digits).length - places),
      isDigit c = true := by
  have hlength : places + 1 ≤ (padded (places + 1) digits).length := by
    simp only [padded, List.length_append, List.length_replicate]
    omega
  have hne : (padded (places + 1) digits).take ((padded (places + 1) digits).length - places) ≠ [] := by
    rw [Ne, List.take_eq_nil_iff, ← List.length_eq_zero_iff]
    omega
  obtain ⟨c, cs, h⟩ := List.exists_cons_of_ne_nil hne
  have hc := h ▸ List.mem_cons_self (a := c) (l := cs)
  exact ⟨c, hc, isDigit_of_mem_padded (List.mem_of_mem_take hc)⟩

lemma exists_digit_positional (digits : Nat) (exponent : Int) :
    ∃ c ∈ Binary64.positional digits exponent, isDigit c = true := by
  unfold Binary64.positional
  split
  · obtain ⟨c, hc, hdigit⟩ := exists_digit_decimal digits
    exact ⟨c, List.mem_append_left _ hc, hdigit⟩
  · obtain ⟨c, hc, hdigit⟩ := exists_digit_whole (-exponent).toNat digits
    dsimp only
    split
    · exact ⟨c, hc, hdigit⟩
    · exact ⟨c, List.mem_append_left _ hc, hdigit⟩

lemma exists_not_blank_textChars (x : Binary64) : ∃ c ∈ x.textChars, isBlank c = false := by
  cases x with
  | finite negative m e =>
    have hdigits : ∃ c ∈ if m = 0 then ['0']
      else Binary64.positional (Binary64.shortest m e).1 (Binary64.shortest m e).2,
        isDigit c = true := by
      split
      · exact ⟨'0', List.mem_cons_self, rfl⟩
      · exact exists_digit_positional _ _
    obtain ⟨c, hc, hdigit⟩ := hdigits
    unfold Binary64.textChars
    cases negative with
    | true => exact ⟨c, List.mem_cons_of_mem _ hc, isBlank_of_isDigit hdigit⟩
    | false => exact ⟨c, hc, isBlank_of_isDigit hdigit⟩
  | infinite negative =>
    cases negative with
    | true => exact ⟨'-', List.mem_cons_self, rfl⟩
    | false => exact ⟨'i', List.mem_cons_self, rfl⟩
  | nan => exact ⟨'N', List.mem_cons_self, rfl⟩

lemma not_blank_written (hx : x ≠ .nil) (htext : ∀ v, x = .text v → isBlankText v = false) :
    isBlankText (written x) = false := by
  cases x with
  | nil => exact absurd rfl hx
  | boolean b => cases b <;> decide +kernel
  | integer n =>
    refine not_isBlankText ?_
    obtain ⟨c, hc, hdigit⟩ := exists_digit_decimal n.natAbs
    refine ⟨c, ?_, isBlank_of_isDigit hdigit⟩
    unfold decimalInt
    split
    · exact List.mem_cons_of_mem _ hc
    · exact hc
  | float x => exact not_isBlankText (exists_not_blank_textChars x)
  | text v => exact htext v rfl

lemma not_blank_writtenBack (h : isBlankText v = false) : isBlankText (writtenBack v) = false := by
  refine not_blank_written (scalarOfText_ne_nil v) fun w hw => ?_
  unfold scalarOfText at hw
  split_ifs at hw
  · split at hw
    · cases hw
    · split at hw
      · cases hw
      · exact Scalar.text.inj hw ▸ h

lemma scalarOfText_decimal (k : Nat) :
    scalarOfText (String.ofList (decimal k)) =
      if k < Nat.pow 2 63 then .integer k else .float (Binary64.ofDecimal false k 0) := by
  have htrue : String.ofList (decimal k) ≠ "true" := fun h => decimal_ne_word rfl (ofList_eq_iff.1 h).symm
  have hfalse : String.ofList (decimal k) ≠ "false" := fun h => decimal_ne_word rfl (ofList_eq_iff.1 h).symm
  unfold scalarOfText
  rw [lower_decimal, if_neg htrue, if_neg hfalse, String.toList_ofList, int64?_decimal, ofChars?_decimal]
  by_cases hsmall : k < Nat.pow 2 63
  · rw [if_pos hsmall, if_pos hsmall]
  · rw [if_neg hsmall, if_neg hsmall]

lemma uint64_scalarOfText (n : UInt64) (o : Option Origin) :
    Decoder.uint64 (.scalar o (scalarOfText (String.ofList (decimal n.toNat)))) = .ok (carried n) := by
  rw [scalarOfText_decimal]
  unfold carried
  split
  · rename_i hsmall
    unfold Decoder.uint64
    dsimp only
    rw [if_pos (Int.natCast_nonneg _), Int.toNat_natCast, UInt64.ofNat_toNat]
  · rename_i hlarge
    exact congrArg Except.ok (toUInt64_ofDecimal (Nat.le_of_not_lt hlarge) n.toNat_lt)

lemma uint64_decimal (n : UInt64) (o : Option Origin) :
    Decoder.uint64 (.scalar o (.text (String.ofList (decimal n.toNat)))) = .ok n := by
  have hword : ∀ word : String, word.toList.all isDigit = false → String.ofList (decimal n.toNat) ≠ word :=
    fun word hword h => decimal_ne_word hword (ofList_eq_iff.1 h).symm
  have hread : natUpTo? (Nat.pow 2 64 - 1) (decimal n.toNat) = some n.toNat := by
    rw [natUpTo?_decimal, if_pos (Nat.le_sub_one_of_lt n.toNat_lt)]
  unfold Decoder.uint64
  simp only [lower_decimal, hword "true" rfl, hword "on" rfl, hword "yes" rfl, hword "false" rfl,
    hword "off" rfl, hword "no" rfl, or_self, if_false, String.toList_ofList, hread, UInt64.ofNat_toNat]

lemma carried_toNat (hlarge : ¬ n.toNat < Nat.pow 2 63) :
    (carried n).toNat = min (nearestMultiple n.toNat) (Nat.pow 2 64 - 1) := by
  unfold carried
  rw [if_neg hlarge, UInt64.toNat_ofNat_of_lt' (Nat.lt_of_le_of_lt (Nat.min_le_right _ _) (by decide))]

lemma carried_eq_iff :
    carried n = n ↔ n.toNat < Nat.pow 2 63 ∨ 2048 ∣ n.toNat ∨ n.toNat = Nat.pow 2 64 - 1 := by
  by_cases hsmall : n.toNat < Nat.pow 2 63
  · exact iff_of_true (if_pos hsmall) (Or.inl hsmall)
  rw [or_iff_right hsmall, ← UInt64.toNat_inj, carried_toNat hsmall, ← nearestMultiple_eq_iff]
  have hhigh := n.toNat_lt
  have hmost : nearestMultiple (Nat.pow 2 64 - 1) = Nat.pow 2 64 := rfl
  constructor
  · intro h
    rcases Nat.le_total (nearestMultiple n.toNat) (Nat.pow 2 64 - 1) with hle | hle
    · exact Or.inl (Nat.min_eq_left hle ▸ h)
    · exact Or.inr (Nat.min_eq_right hle ▸ h).symm
  · rintro (h | h)
    · rw [h]
      exact Nat.min_eq_left (Nat.le_sub_one_of_lt hhigh)
    · rw [h, hmost]
      rfl

/-- A number that does not arrive as it is arrives as one of the two multiples of 2048 around it, or as the
last number. -/
lemma carried_near (n : UInt64) :
    (carried n).toNat ≤ n.toNat + 1024 ∧ n.toNat ≤ (carried n).toNat + 1024 := by
  by_cases hsmall : n.toNat < Nat.pow 2 63
  · have hsame : carried n = n := if_pos hsmall
    rw [hsame]
    omega
  · have hnear := nearestMultiple_near n.toNat
    have hhigh := n.toNat_lt
    rw [carried_toNat hsmall]
    simp only [Nat.pow_eq] at *
    omega

end Gatehouse.Proofs
