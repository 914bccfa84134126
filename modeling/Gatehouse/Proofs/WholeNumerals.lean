import Gatehouse.Number.Binary64
import Gatehouse.Proofs.HttpDates
import Gatehouse.Text.Lowercase
import Mathlib.Data.List.TakeWhile
import Mathlib.Tactic.IntervalCases

/-!
# Whole numbers read from their digits

The digits of a number are neither a word nor anything but this number. Read as an integer of 64 bits they
are refused from 2 ^ 63 on. Read as binary floating point they are, between 2 ^ 63 and 2 ^ 64, the nearest
multiple of 2048, and taken back to a whole number this multiple is kept below 2 ^ 64.
-/

namespace Gatehouse.Proofs
open Text

variable {n : Nat} {cs word : List Char} {c : Char}

lemma toLower_of_isDigit (h : isDigit c = true) : c.toLower = c := by
  simp only [isDigit, Bool.and_eq_true, decide_eq_true_eq] at h
  have hlow : 48 ≤ c.toNat := h.1
  have hhigh : c.toNat ≤ 57 := h.2
  have hall : ∀ m < 58, 48 ≤ m → (Char.ofNat m).toLower = Char.ofNat m := by decide
  rw [← Char.ofNat_toNat c]
  exact hall c.toNat (by omega) hlow

lemma lowerChars_of_digits (h : ∀ d ∈ cs, isDigit d = true) : lowerChars cs = cs := by
  unfold lowerChars
  generalize [] = before
  induction cs generalizing before with
  | nil => rfl
  | cons d cs ih =>
    have hd := h d List.mem_cons_self
    have hcode : d.toNat ≤ 57 := by
      simp only [isDigit, Bool.and_eq_true, decide_eq_true_eq] at hd
      exact hd.2
    have hlower : lowerChar d = [d.toLower] := if_pos (by omega)
    unfold lowerAfter
    rw [if_neg (by omega), hlower, toLower_of_isDigit hd, ih fun e he => h e (List.mem_cons_of_mem d he)]
    rfl

lemma lower_decimal (n : Nat) : lower (String.ofList (decimal n)) = String.ofList (decimal n) := by
  unfold lower
  rw [String.toList_ofList, lowerChars_of_digits fun c => isDigit_of_mem_decimal]

lemma decimal_ne_word (hword : word.all isDigit = false) : decimal n ≠ word := by
  rintro rfl
  rw [List.all_eq_true.2 fun c => isDigit_of_mem_decimal] at hword
  cases hword

lemma decimal_eq_cons (n : Nat) : ∃ c cs, decimal n = c :: cs ∧ isDigit c = true := by
  obtain ⟨c, cs, h⟩ := List.exists_cons_of_ne_nil (show decimal n ≠ [] from Nat.toDigits_ne_nil)
  have hmem : c ∈ decimal n := by
    rw [h]
    exact List.mem_cons_self
  exact ⟨c, cs, h, isDigit_of_mem_decimal hmem⟩

/-- Only zero has a zero in front. -/
lemma decimal_of_pos (h : 0 < n) : ∃ d ds, decimal n = d :: ds ∧ d ≠ '0' := by
  induction n using Nat.strongRecOn with
  | ind n ih =>
    unfold decimal at *
    rw [Nat.toDigits_eq_if (by decide)]
    split
    · refine ⟨n.digitChar, [], rfl, ?_⟩
      interval_cases n <;> decide
    · obtain ⟨d, ds, hdigits, hd⟩ := ih (n / 10) (by omega) (by omega)
      rw [hdigits]
      exact ⟨d, ds ++ [(n % 10).digitChar], rfl, hd⟩

lemma natUpTo?_decimal (limit n : Nat) : natUpTo? limit (decimal n) = if n ≤ limit then some n else none := by
  obtain ⟨c, cs, heq, hc⟩ := decimal_eq_cons n
  have hplus : ¬ (decimal n).head? = some '+' := by
    rw [heq]
    intro hhead
    cases hhead
    cases hc
  unfold natUpTo?
  rw [if_neg hplus, digits?_decimal]
  rfl

lemma int64?_decimal (n : Nat) : int64? (decimal n) = if n < Nat.pow 2 63 then some (n : Int) else none := by
  have hread := natUpTo?_decimal (Nat.pow 2 63 - 1) n
  obtain ⟨c, cs, heq, hc⟩ := decimal_eq_cons n
  rw [heq] at hread ⊢
  unfold int64?
  split
  · rename_i heq'
    rw [(List.cons.inj heq').1] at hc
    cases hc
  · rw [hread]
    by_cases hn : n < Nat.pow 2 63
    · rw [if_pos (Nat.le_sub_one_of_lt hn), if_pos hn]
      rfl
    · rw [if_neg fun hle => hn (Nat.lt_of_le_sub_one (by decide) hle), if_neg hn]
      rfl

lemma takeWhile_decimal (n : Nat) : (decimal n).takeWhile isDigit = decimal n :=
  List.takeWhile_eq_self_iff.2 fun _ => isDigit_of_mem_decimal

lemma unsigned?_decimal (n : Nat) :
    Binary64.unsigned? false (decimal n) = some (Binary64.ofDecimal false n 0) := by
  unfold Binary64.unsigned?
  simp only [takeWhile_decimal, List.drop_length, List.append_nil, digits?_decimal]
  rfl

lemma ofChars?_decimal (n : Nat) : Binary64.ofChars? (decimal n) = some (Binary64.ofDecimal false n 0) := by
  have hmagnitude : Binary64.magnitude? false (decimal n) = some (Binary64.ofDecimal false n 0) := by
    have hlower : (decimal n).map Char.toLower = decimal n :=
      (List.map_congr_left fun c hc => toLower_of_isDigit (isDigit_of_mem_decimal hc)).trans (List.map_id _)
    have hinfinite : ¬ (decimal n = "inf".toList ∨ decimal n = "infinity".toList) :=
      not_or.2 ⟨decimal_ne_word rfl, decimal_ne_word rfl⟩
    unfold Binary64.magnitude?
    simp only [hlower]
    rw [if_neg hinfinite, if_neg (decimal_ne_word rfl), unsigned?_decimal]
  obtain ⟨c, cs, heq, hc⟩ := decimal_eq_cons n
  rw [heq] at hmagnitude ⊢
  unfold Binary64.ofChars?
  split
  · rename_i heq'
    rw [(List.cons.inj heq').1] at hc
    cases hc
  · rename_i heq'
    rw [(List.cons.inj heq').1] at hc
    cases hc
  · exact hmagnitude

/-- The multiple of 2048 nearest to a number. -/
def nearestMultiple (n : Nat) : Nat := Binary64.roundHalfEven n 2048 * 2048

lemma nearestMultiple_eq_iff : nearestMultiple n = n ↔ 2048 ∣ n := by
  constructor
  · intro h
    exact ⟨Binary64.roundHalfEven n 2048, by rw [Nat.mul_comm]; exact h.symm⟩
  · rintro ⟨q, rfl⟩
    unfold nearestMultiple Binary64.roundHalfEven
    simp only [Nat.mul_mod_right, Nat.mul_zero, Nat.zero_lt_succ, if_true]
    omega

lemma nearestMultiple_near (n : Nat) : nearestMultiple n ≤ n + 1024 ∧ n ≤ nearestMultiple n + 1024 := by
  unfold nearestMultiple Binary64.roundHalfEven
  dsimp only
  split
  · omega
  · split <;> omega

lemma nearestMultiple_bounds (hlow : Nat.pow 2 63 ≤ n) (hhigh : n < Nat.pow 2 64) :
    Nat.pow 2 63 ≤ nearestMultiple n ∧ nearestMultiple n ≤ Nat.pow 2 64 := by
  unfold nearestMultiple Binary64.roundHalfEven
  simp only [Nat.pow_eq] at *
  split
  · omega
  · split <;> omega

/-- Numbers of 64 bits with the highest bit set have 11 bits more than a mantissa. -/
lemma ofRatio_of_large (hlow : Nat.pow 2 63 ≤ n) (hhigh : n < Nat.pow 2 64) :
    Binary64.ofRatio false n 1 =
      if Binary64.roundHalfEven n 2048 = Nat.pow 2 53 then .finite false (Nat.pow 2 52) 12
      else .finite false (Binary64.roundHalfEven n 2048) 11 := by
  have hlog : n.log2 = 63 := (Nat.log2_eq_iff (by rintro rfl; cases hlow)).2 ⟨hlow, hhigh⟩
  have hguess : max (-1074) (((n.log2 : Nat) : Int) - ((1 : Nat).log2 : Nat) - 53) = 10 := by
    rw [hlog]
    rfl
  have hten : Binary64.scaled n 1 10 = (n, 1024) := rfl
  have hmany : ¬ n / 1024 < Nat.pow 2 53 := by
    simp only [Nat.pow_eq] at *
    omega
  unfold Binary64.ofRatio
  simp only [hguess, hten, hmany, if_false]
  rw [show Binary64.scaled n 1 (10 + 1) = (n, 2048) from rfl]
  split <;> rfl

lemma ofDecimal_of_large (hlow : Nat.pow 2 63 ≤ n) (hhigh : n < Nat.pow 2 64) :
    Binary64.ofDecimal false n 0 = Binary64.ofRatio false n 1 := by
  have hlength : (decimal n).length ≤ 20 := by
    exact (Nat.length_toDigits_le_iff (by decide) (by decide)).2 (Nat.lt_trans hhigh (by decide))
  have hpos : 0 < n := Nat.lt_of_lt_of_le (by decide) hlow
  unfold Binary64.ofDecimal
  dsimp only
  rw [if_neg (by omega), if_neg (by omega), if_pos (Int.le_refl 0)]
  exact congrArg (Binary64.ofRatio false · 1) (Nat.mul_one n)

lemma toUInt64_ofDecimal (hlow : Nat.pow 2 63 ≤ n) (hhigh : n < Nat.pow 2 64) :
    (Binary64.ofDecimal false n 0).toUInt64 = UInt64.ofNat (min (nearestMultiple n) (Nat.pow 2 64 - 1)) := by
  rw [ofDecimal_of_large hlow hhigh, ofRatio_of_large hlow hhigh]
  unfold nearestMultiple
  split
  · rename_i heq
    rw [heq]
    rfl
  · rfl

end Gatehouse.Proofs
