import Gatehouse.Proofs.HttpDates
import Gatehouse.Time.Rfc3339
import Mathlib.Data.Nat.Digits.Defs

/-!
# Reading timestamps back

The reader of timestamps takes many forms that the writer never uses, and shares no code with it. From what
the writer makes of an instant it reads that instant: every field ends where the writer ended it, a year
with a sign has as many digits as it needs, the decimals that are left out are zeros, and no date or time of
an instant lies outside the bounds that the reader sets.
-/

namespace Gatehouse.Proofs
open Text Time

variable {width n low high : Nat} {y : Int} {run rest : List Char} {t : Instant}

lemma isBlank_of_isDigit {c : Char} (h : isDigit c = true) : isBlank c = false := by
  simp only [isDigit, Bool.and_eq_true, decide_eq_true_eq] at h
  have hfrom : 48 ≤ c.toNat := h.1
  have hto : c.toNat ≤ 57 := h.2
  simp only [isBlank, Bool.or_eq_false_iff, Bool.and_eq_false_iff, decide_eq_false_iff_not,
    beq_eq_false_iff_ne]
  omega

lemma length_padded_le (hwidth : 0 < width) (h : n < 10 ^ width) : (padded width n).length ≤ width := by
  have hdecimal : (decimal n).length ≤ width := Nat.toDigits_length 10 n width hwidth h
  rw [padded, List.length_append, List.length_replicate]
  omega

lemma length_padded (hwidth : 0 < width) (h : n < 10 ^ width) : (padded width n).length = width := by
  have hle := length_padded_le hwidth h
  rw [padded, List.length_append, List.length_replicate] at hle ⊢
  omega

lemma trimStart_padded (width n : Nat) (rest : List Char) :
    trimStart (padded width n ++ rest) = padded width n ++ rest := by
  obtain ⟨c, cs, heq, hc⟩ := padded_eq_cons width n
  rw [heq]
  exact trimStart_of_head_not_blank _ (isBlank_of_isDigit hc)

lemma takeWhile_digits (hrun : ∀ c ∈ run, isDigit c = true) (hrest : rest.takeWhile isDigit = []) :
    (run ++ rest).takeWhile isDigit = run := by
  rw [List.takeWhile_append_of_pos hrun, hrest, List.append_nil]

lemma takeWhile_digits_take (hlength : run.length ≤ width) (hrun : ∀ c ∈ run, isDigit c = true)
    (hrest : rest.takeWhile isDigit = []) : ((run ++ rest).take width).takeWhile isDigit = run := by
  rw [List.take_append, List.take_of_length_le hlength]
  refine takeWhile_digits hrun ?_
  cases rest with
  | nil => rw [List.take_nil, List.takeWhile_nil]
  | cons c rest =>
    cases width - run.length with
    | zero => rfl
    | succ left =>
      have hc : ¬ isDigit c = true := by
        intro hdigit
        rw [List.takeWhile_cons_of_pos hdigit] at hrest
        cases hrest
      rw [List.take_succ_cons, List.takeWhile_cons_of_neg hc]

lemma readDigits_padded {limit : Nat} (hlength : (padded width n).length ≤ limit)
    (hrest : rest.takeWhile isDigit = []) : readDigits limit (padded width n ++ rest) = some (n, rest) := by
  have hrun := takeWhile_digits_take hlength (fun c => isDigit_of_mem_padded) hrest
  unfold readDigits
  simp only [hrun, digits?_padded, List.drop_left, Option.bind_eq_bind, Option.bind_some, Option.pure_def]

lemma readField_padded (hhigh : high < 100) (hlow : low ≤ n) (hle : n ≤ high)
    (hrest : rest.takeWhile isDigit = []) :
    readField 2 low high (padded 2 n ++ rest) = some (n, rest) := by
  have hlength : (padded 2 n).length ≤ 2 := length_padded_le Nat.two_pos (by omega)
  unfold readField
  rw [trimStart_padded, readDigits_padded hlength hrest, Option.bind_eq_bind, Option.bind_some]
  exact if_pos ⟨hlow, hle⟩

lemma readMark_cons {mark : Char} (h : isBlank mark = false) (rest : List Char) :
    readMark mark (mark :: rest) = some rest := by
  unfold readMark
  rw [trimStart_of_head_not_blank rest h]
  exact if_pos rfl

lemma readYear_signed (cs : List Char) :
    readYear ('-' :: cs) = (readDigits cs.length cs).bind (fun p => some (-(p.1 : Int), p.2)) ∧
      readYear ('+' :: cs) = (readDigits cs.length cs).bind (fun p => some ((p.1 : Int), p.2)) :=
  ⟨rfl, rfl⟩

/-- Beyond four digits a year is read from its sign on, to the end of its digits. -/
lemma readYear_yearText (hrest : rest.takeWhile isDigit = []) :
    readYear (yearText y ++ rest) = some (y, rest) := by
  have hlength : (padded 4 y.natAbs).length ≤ (padded 4 y.natAbs ++ rest).length := by
    rw [List.length_append]
    exact Nat.le_add_right _ _
  have hsigned := readDigits_padded hlength hrest
  unfold yearText
  split
  -- Without a sign there is a limit of four digits, which such a year has.
  · rename_i hfour
    have hplain := readDigits_padded (length_padded_le (by decide) (show y.toNat < 10 ^ 4 by omega)) hrest
    obtain ⟨c, cs, heq, hc⟩ := padded_eq_cons 4 y.toNat
    unfold readYear
    rw [trimStart_padded]
    rw [heq, List.cons_append] at hplain ⊢
    split
    · rename_i hminus
      cases hminus
      cases hc
    · rename_i hplus
      cases hplus
      cases hc
    · rw [hplain]
      exact congrArg (fun z => some (z, rest)) (Int.toNat_of_nonneg hfour.1)
  · split
    · rw [List.cons_append, (readYear_signed _).1, hsigned]
      exact congrArg (fun z => some (z, rest)) (show -(y.natAbs : Int) = y by omega)
    · rw [List.cons_append, (readYear_signed _).2, hsigned]
      exact congrArg (fun z => some (z, rest)) (show (y.natAbs : Int) = y by omega)

lemma daysInMonth_le (leap : Bool) (m : Nat) : daysInMonth leap m ≤ 31 := by
  unfold daysInMonth
  split
  · split <;> decide
  all_goals decide

lemma readDate_of_valid {d : Date} (hvalid : d.IsValid) (hfrom : -262143 ≤ d.year) (hto : d.year ≤ 262142)
    (hrest : rest.takeWhile isDigit = []) :
    readDate (yearText d.year ++ '-' :: (padded 2 d.month ++ '-' :: (padded 2 d.day ++ rest))) =
      some (d, rest) := by
  obtain ⟨hmonth, hmonths, hday, hdays⟩ := hvalid
  have hmost := daysInMonth_le (isLeapYear d.year) d.month
  unfold readDate
  simp only [Option.bind_eq_bind]
  rw [readYear_yearText rfl, Option.bind_some, readMark_cons (by decide), Option.bind_some,
    readField_padded (by decide) hmonth hmonths rfl, Option.bind_some, readMark_cons (by decide),
    Option.bind_some, readField_padded (by decide) hday (hdays.trans hmost) hrest, Option.bind_some]
  exact if_pos ⟨hfrom, hto, hmonth, hmonths, hday, hdays⟩

lemma fractionText_ends (n : Nat) : (fractionText n ++ ['Z']).takeWhile isDigit = [] := by
  unfold fractionText
  split
  · rfl
  · split
    · rfl
    · split <;> rfl

lemma readFraction_point {m : Nat} (hwidth : 0 < width) (hmost : width ≤ 9) (h : m < 10 ^ width) :
    readFraction ('.' :: padded width m ++ ['Z']) = some (m * 10 ^ (9 - width), ['Z']) := by
  have hlength := length_padded hwidth h
  have hrun : (padded width m ++ ['Z']).takeWhile isDigit = padded width m :=
    takeWhile_digits (fun c => isDigit_of_mem_padded) rfl
  have hkept : (padded width m).take 9 = padded width m := List.take_of_length_le (by omega)
  have hrest : (padded width m ++ ['Z']).drop width = ['Z'] := List.drop_left' hlength
  rw [List.cons_append, readFraction]
  simp only [hrun, hkept, hlength, hrest, digits?_padded, Option.bind_eq_bind, Option.bind_some]
  rfl

/-- Three, six or nine decimals are enough exactly if the others are zeros. -/
lemma readFraction_fractionText (h : n < 1000000000) :
    readFraction (fractionText n ++ ['Z']) = some (n, ['Z']) := by
  unfold fractionText
  split
  · rename_i hzero
    rw [hzero]
    rfl
  · split
    · rw [readFraction_point (by decide) (by decide) (by omega)]
      exact congrArg (fun m => some (m, ['Z'])) (by omega)
    · split
      · rw [readFraction_point (by decide) (by decide) (by omega)]
        exact congrArg (fun m => some (m, ['Z'])) (by omega)
      · rw [readFraction_point (by decide) (by decide) (by omega)]
        exact congrArg (fun m => some (m, ['Z'])) (by omega)

lemma readClock_clockText {second : Nat} (hsecond : second < 86400) (h : n < 1000000000) :
    readClock (clockText second 0 ++ (fractionText n ++ ['Z'])) =
      some ((second / 3600, second / 60 % 60, second % 60), n, ['Z']) := by
  unfold readClock clockText
  simp only [Option.bind_eq_bind, List.append_assoc, List.cons_append, Nat.add_zero]
  rw [readField_padded (by decide) (Nat.zero_le _) (by omega) rfl, Option.bind_some,
    readMark_cons (by decide), Option.bind_some,
    readField_padded (by decide) (Nat.zero_le _) (by omega) rfl, Option.bind_some,
    readMark_cons (by decide), Option.bind_some,
    readField_padded (by decide) (Nat.zero_le _) (by omega) (fractionText_ends n), Option.bind_some,
    readFraction_fractionText h]
  rfl

lemma instantAt?_of_not_leap (ht : t.leap = false) {second : Nat} (hsecond : t.secondOfDay = second) :
    instantAt? (Date.ofDayNumber t.dayNumber) (second / 3600, second / 60 % 60, second % 60)
      (t.nanos % 1000000000).toNat 0 = some t := by
  have hshown : min (second % 60) 59 = second % 60 := by omega
  have hordinary : (second % 60 == 60) = t.leap := by
    rw [ht, beq_eq_false_iff_ne]
    omega
  have hnanos : ((t.dayNumber - epochDay) * 86400 +
      ((second / 3600 : Nat) * 3600 + (second / 60 % 60 : Nat) * 60 +
        (second % 60 : Nat) : Int) - 0) * 1000000000 + (t.nanos % 1000000000).toNat = t.nanos := by
    unfold Instant.dayNumber
    unfold Instant.secondOfDay at hsecond
    unfold Instant.seconds at hsecond ⊢
    omega
  unfold instantAt?
  dsimp only
  rw [(ofDayNumber_spec t.dayNumber).2, hshown, hnanos, hordinary]
  exact dif_pos ⟨t.earliest_le, t.le_latest⟩

/-- An instant outside a leap second is read back from its timestamp, to the nanosecond. -/
theorem instantOfChars?_timestampChars (ht : t.leap = false) :
    instantOfChars? (timestampChars t) = some t := by
  have hvalid := (ofDayNumber_spec t.dayNumber).1
  obtain ⟨hfrom, hto⟩ := year_bounds t
  have hsecond : t.secondOfDay = t.secondOfDay.toNat := by
    unfold Instant.secondOfDay
    omega
  have hday : t.secondOfDay.toNat < 86400 := by
    unfold Instant.secondOfDay
    omega
  have htext : timestampChars t = yearText (Date.ofDayNumber t.dayNumber).year ++
      '-' :: (padded 2 (Date.ofDayNumber t.dayNumber).month ++ '-' ::
        (padded 2 (Date.ofDayNumber t.dayNumber).day ++ 'T' :: (clockText t.secondOfDay.toNat 0 ++
          (fractionText (t.nanos % 1000000000).toNat ++ ['Z'])))) := by
    simp [timestampChars, ht]
  unfold instantOfChars?
  rw [htext, readDate_of_valid hvalid hfrom hto rfl, Option.bind_eq_bind, Option.bind_some]
  dsimp only
  rw [if_pos (Or.inl rfl), readClock_clockText hday (by omega), Option.bind_eq_bind, Option.bind_some]
  exact instantAt?_of_not_leap ht hsecond

end Gatehouse.Proofs
