import Gatehouse.Text.Split
import Gatehouse.Time.HttpDate
import Mathlib.Tactic.IntervalCases
import Mathlib.Tactic.Lemma

/-!
# Reading the dates of headers

A reader for the dates that headers carry, written from their format alone: six fields with a blank between
them, of which the weekday has to agree with the others. What it reads from the date of an instant is the
second that the instant lies in. That needs the calendar to lead from the number of a day to its date and
back.
-/

namespace Gatehouse.Proofs
open Text Time

lemma daysBeforeYear_succ (y : Int) :
    daysBeforeYear (y + 1) = daysBeforeYear y + if isLeapYear y then 366 else 365 := by
  have hleap : isLeapYear y = true ↔ y % 4 = 0 ∧ (y % 100 ≠ 0 ∨ y % 400 = 0) := by
    simp [isLeapYear]
  unfold daysBeforeYear
  by_cases h : isLeapYear y = true
  · rw [if_pos h]
    rw [hleap] at h
    omega
  · rw [if_neg h]
    rw [hleap] at h
    omega

lemma daysBeforeYear_mono {y z : Int} (h : y ≤ z) : daysBeforeYear y ≤ daysBeforeYear z := by
  rcases Int.le_iff_eq_or_lt.1 h with rfl | hlt
  · exact Int.le_refl _
  · unfold daysBeforeYear
    omega

lemma daysBeforeMonth_succ (leap : Bool) {m : Nat} (hm : 1 ≤ m) :
    daysBeforeMonth leap (m + 1) = daysBeforeMonth leap m + daysInMonth leap m := by
  obtain ⟨k, rfl⟩ := Nat.exists_eq_add_of_le' hm
  rfl

/-- The month that is found is the one that the day falls into, if any of those sought through is. -/
lemma monthFrom_spec (leap : Bool) {dayOfYear : Nat} (left m : Nat)
    (hfrom : daysBeforeMonth leap m ≤ dayOfYear) (hto : dayOfYear < daysBeforeMonth leap (m + left + 1)) :
    m ≤ monthFrom leap dayOfYear m left ∧ monthFrom leap dayOfYear m left ≤ m + left ∧
      daysBeforeMonth leap (monthFrom leap dayOfYear m left) ≤ dayOfYear ∧
      dayOfYear < daysBeforeMonth leap (monthFrom leap dayOfYear m left + 1) := by
  induction left generalizing m with
  | zero => exact ⟨Nat.le_refl m, Nat.le_refl m, hfrom, hto⟩
  | succ left ih =>
    rw [monthFrom]
    by_cases hlt : dayOfYear < daysBeforeMonth leap (m + 1)
    · rw [if_pos hlt]
      exact ⟨Nat.le_refl m, Nat.le_add_right m _, hfrom, hlt⟩
    · rw [if_neg hlt]
      obtain ⟨hlow, hhigh, hstart, hend⟩ := ih (m + 1) (Nat.le_of_not_lt hlt) (by
        rw [show m + 1 + left + 1 = m + (left + 1) + 1 by omega]
        exact hto)
      exact ⟨by omega, by omega, hstart, hend⟩

lemma dayOfYear_lt (n : Int) :
    (n - daysBeforeYear (yearOfDay n)).toNat < daysBeforeMonth (isLeapYear (yearOfDay n)) 13 := by
  obtain ⟨hle, hlt⟩ := daysBeforeYear_le_and_lt n
  rw [daysBeforeYear_succ] at hlt
  cases hleap : isLeapYear (yearOfDay n) with
  | true =>
    rw [hleap, if_pos rfl] at hlt
    show _ < 366
    omega
  | false =>
    rw [hleap, if_neg Bool.false_ne_true] at hlt
    show _ < 365
    omega

lemma ofDayNumber_spec (n : Int) : (Date.ofDayNumber n).IsValid ∧ (Date.ofDayNumber n).dayNumber = n := by
  have hle := (daysBeforeYear_le_and_lt n).1
  obtain ⟨hlow, hhigh, hstart, hend⟩ :=
    monthFrom_spec (isLeapYear (yearOfDay n)) 11 1 (Nat.zero_le _) (dayOfYear_lt n)
  have hmonth := daysBeforeMonth_succ (isLeapYear (yearOfDay n)) hlow
  unfold Date.IsValid Date.dayNumber Date.ofDayNumber
  dsimp only
  generalize monthFrom (isLeapYear (yearOfDay n)) (n - daysBeforeYear (yearOfDay n)).toNat 1 11 = month at *
  refine ⟨⟨hlow, by omega, by omega, by omega⟩, by omega⟩

lemma year_bounds (t : Instant) :
    -262143 ≤ (Date.ofDayNumber t.dayNumber).year ∧ (Date.ofDayNumber t.dayNumber).year ≤ 262142 := by
  obtain ⟨hstart, hend⟩ := daysBeforeYear_le_and_lt t.dayNumber
  have hearliest := t.earliest_le
  have hlatest := t.le_latest
  show -262143 ≤ yearOfDay t.dayNumber ∧ yearOfDay t.dayNumber ≤ 262142
  -- A year further out would put the day before the first day of the one year or behind the last day of
  -- the other.
  constructor
  · by_contra hearly
    have hyears := daysBeforeYear_mono (show yearOfDay t.dayNumber + 1 ≤ -262143 by omega)
    have hfirst : daysBeforeYear (-262143) ≤ t.dayNumber := by
      show (-95745764 : Int) ≤ t.dayNumber
      unfold Instant.dayNumber epochDay Instant.seconds
      omega
    omega
  · by_contra hlate
    have hyears := daysBeforeYear_mono (show 262143 ≤ yearOfDay t.dayNumber by omega)
    have hlast : t.dayNumber < daysBeforeYear 262143 := by
      show t.dayNumber < (95745765 : Int)
      unfold Instant.dayNumber epochDay Instant.seconds
      omega
    omega

lemma isDigit_of_mem_padded {width n : Nat} {c : Char} (h : c ∈ padded width n) : isDigit c = true := by
  rcases List.mem_append.1 h with hzero | hdecimal
  · rw [List.eq_of_mem_replicate hzero]
    rfl
  · exact isDigit_of_mem_decimal hdecimal

lemma padded_ne_nil (width n : Nat) : padded width n ≠ [] := by
  intro h
  exact Nat.toDigits_ne_nil (List.append_eq_nil_iff.1 h).2

lemma digits?_padded (width n : Nat) : digits? (padded width n) = some n := by
  have hdigits : (padded width n).all isDigit = true := List.all_eq_true.2 fun c => isDigit_of_mem_padded
  have hvalue : numeralValue (padded width n) = n := by
    unfold numeralValue padded decimal
    rw [Nat.ofDigitChars_append, Nat.ofDigitChars_replicate_zero, Nat.mul_zero,
      Nat.ofDigitChars_toDigits (by decide) (by decide)]
  rw [digits?, if_pos ⟨padded_ne_nil width n, hdigits⟩, hvalue]

lemma padded_eq_cons (width n : Nat) : ∃ c cs, padded width n = c :: cs ∧ isDigit c = true := by
  obtain ⟨c, cs, h⟩ := List.exists_cons_of_ne_nil (padded_ne_nil width n)
  have hmem : c ∈ padded width n := by
    rw [h]
    exact List.mem_cons_self
  exact ⟨c, cs, h, isDigit_of_mem_padded hmem⟩

end Gatehouse.Proofs
