/-!
# The Gregorian calendar

Days are numbered from 1 January of year 0, backwards and forwards without end. The year of a day is
guessed from the mean length of a year and put right by looking at the neighbouring years, so the day
lies between the first day of its year and the first day of the next.
-/

namespace Gatehouse.Time

def isLeapYear (y : Int) : Bool := y % 4 == 0 && (y % 100 != 0 || y % 400 == 0)

/-- The number of the first day of a year. -/
def daysBeforeYear (y : Int) : Int := 365 * y + (y + 3) / 4 - (y + 99) / 100 + (y + 399) / 400

def daysInMonth (leap : Bool) : Nat → Nat
  | 2 => if leap then 29 else 28
  | 4 | 6 | 9 | 11 => 30
  | _ => 31

/-- Days of the year before the first of a month. -/
def daysBeforeMonth (leap : Bool) : Nat → Nat
  | 0 | 1 => 0
  | m + 2 => daysBeforeMonth leap (m + 1) + daysInMonth leap (m + 1)

structure Date where
  year : Int
  month : Nat
  day : Nat
deriving DecidableEq, Repr

namespace Date

def IsValid (d : Date) : Prop :=
  1 ≤ d.month ∧ d.month ≤ 12 ∧ 1 ≤ d.day ∧ d.day ≤ daysInMonth (isLeapYear d.year) d.month

instance (d : Date) : Decidable d.IsValid := by unfold IsValid; infer_instance

/-- The number of a day. -/
def dayNumber (d : Date) : Int :=
  daysBeforeYear d.year + daysBeforeMonth (isLeapYear d.year) d.month + (d.day - 1 : Int)

end Date

def yearOfDay (n : Int) : Int :=
  let guess := (400 * n) / 146097
  if n < daysBeforeYear guess then guess - 1
  else if daysBeforeYear (guess + 1) ≤ n then guess + 1
  else guess

/-- The month that a day of the year falls into, sought from `m` on. -/
def monthFrom (leap : Bool) (dayOfYear : Nat) : (m : Nat) → (left : Nat) → Nat
  | m, 0 => m
  | m, left + 1 =>
    if dayOfYear < daysBeforeMonth leap (m + 1) then m else monthFrom leap dayOfYear (m + 1) left

def Date.ofDayNumber (n : Int) : Date :=
  let year := yearOfDay n
  let leap := isLeapYear year
  let dayOfYear := (n - daysBeforeYear year).toNat
  let month := monthFrom leap dayOfYear 1 11
  ⟨year, month, dayOfYear - daysBeforeMonth leap month + 1⟩

/-- The number of 1 January 1970. -/
def epochDay : Int := 719528

inductive Weekday where
  | sunday | monday | tuesday | wednesday | thursday | friday | saturday
deriving DecidableEq, Repr

/-- Day number 0 is a Saturday. -/
def weekday (n : Int) : Weekday :=
  match (n % 7).toNat with
  | 0 => .saturday
  | 1 => .sunday
  | 2 => .monday
  | 3 => .tuesday
  | 4 => .wednesday
  | 5 => .thursday
  | _ => .friday

theorem daysBeforeYear_le_and_lt (n : Int) :
    daysBeforeYear (yearOfDay n) ≤ n ∧ n < daysBeforeYear (yearOfDay n + 1) := by
  unfold yearOfDay
  simp only
  have lower : 146097 * ((400 * n) / 146097) ≤ 400 * n := by omega
  have upper : 400 * n < 146097 * ((400 * n) / 146097) + 146097 := by omega
  generalize (400 * n) / 146097 = guess at lower upper ⊢
  split
  · rename_i late
    rw [show guess - 1 + 1 = guess by omega]
    refine ⟨?_, late⟩
    unfold daysBeforeYear
    omega
  · split
    · rename_i _ early
      refine ⟨early, ?_⟩
      unfold daysBeforeYear
      omega
    · rename_i inside before
      exact ⟨by omega, by omega⟩

end Gatehouse.Time
