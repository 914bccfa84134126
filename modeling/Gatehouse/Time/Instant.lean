import Gatehouse.Time.Calendar
import Gatehouse.Time.Span

/-!
# Instants

An instant is a point of UTC in nanoseconds, between the first moment of year -262143 and the last of
year 262142. A leap second is an extra second that follows second 59 of its minute: an instant within it
shares its count of nanoseconds with the instant one second earlier and carries a mark. Such instants
come in through text only. Moving an instant by a span fails when it leaves the range.
-/

namespace Gatehouse

structure Instant where
  nanos : Int
  leap : Bool
  earliest_le : -8334601228800000000000 ≤ nanos
  le_latest : nanos ≤ 8210266876799999999999
deriving DecidableEq

namespace Instant

instance : Inhabited Instant := ⟨⟨0, false, by decide, by decide⟩⟩

def epoch : Instant := ⟨0, false, by decide, by decide⟩

def make? (nanos : Int) (leap : Bool) : Option Instant :=
  if h : -8334601228800000000000 ≤ nanos ∧ nanos ≤ 8210266876799999999999 then
    some ⟨nanos, leap, h.1, h.2⟩
  else none

def ofNanos? (nanos : Int) : Option Instant := make? nanos false

def ofMillis? (millis : Int) : Option Instant := ofNanos? (millis * 1000000)

/-- Whole seconds since the epoch. -/
def seconds (t : Instant) : Int := t.nanos / 1000000000

/-- Nanoseconds into the second, from a whole second on for a leap second. -/
def subsec (t : Instant) : Int := t.nanos % 1000000000 + if t.leap then 1000000000 else 0

def secondOfDay (t : Instant) : Int := t.seconds % 86400

def dayNumber (t : Instant) : Int := t.seconds / 86400 + Time.epochDay

/-- Position on a line on which every second has room for a leap second behind it. -/
def position (t : Instant) : Int := t.seconds * 2000000000 + t.subsec

instance : LT Instant := ⟨fun t u => t.position < u.position⟩

instance : LE Instant := ⟨fun t u => t.position ≤ u.position⟩

instance (t u : Instant) : Decidable (t < u) := inferInstanceAs (Decidable (t.position < u.position))

instance (t u : Instant) : Decidable (t ≤ u) := inferInstanceAs (Decidable (t.position ≤ u.position))

def earlier (t u : Instant) : Instant := if u < t then u else t

/-- The instant a signed number of nanoseconds away. Within a leap second the clock runs on to its end or
back to its start, and from there through ordinary seconds. -/
def add? (t : Instant) (d : Int) : Option Instant :=
  if t.leap then
    if 1000000000 ≤ t.nanos % 1000000000 + d then make? (t.nanos + d) false
    else if 0 ≤ t.nanos % 1000000000 + d then make? (t.nanos + d) true
    else make? (t.nanos + 1000000000 + d) false
  else make? (t.nanos + d) false

/-- Nanoseconds from `u` to `t`. A leap second counts when it lies between the two times of day. -/
def since (t u : Instant) : Int :=
  (t.seconds - u.seconds) * 1000000000 + (t.subsec - u.subsec) +
    (if u.leap ∧ u.secondOfDay < t.secondOfDay then 1000000000
     else if t.leap ∧ t.secondOfDay < u.secondOfDay then -1000000000
     else 0)

theorem position_of_not_leap {t : Instant} (h : t.leap = false) :
    t.position = t.nanos + t.seconds * 1000000000 := by
  simp only [position, subsec, seconds, h]
  simp only [Bool.false_eq_true, ↓reduceIte]
  omega

theorem lt_iff_nanos_lt {t u : Instant} (ht : t.leap = false) (hu : u.leap = false) :
    t < u ↔ t.nanos < u.nanos := by
  show t.position < u.position ↔ _
  rw [position_of_not_leap ht, position_of_not_leap hu]
  simp only [seconds]
  omega

theorem le_iff_nanos_le {t u : Instant} (ht : t.leap = false) (hu : u.leap = false) :
    t ≤ u ↔ t.nanos ≤ u.nanos := by
  show t.position ≤ u.position ↔ _
  rw [position_of_not_leap ht, position_of_not_leap hu]
  simp only [seconds]
  omega

theorem since_of_not_leap {t u : Instant} (ht : t.leap = false) (hu : u.leap = false) :
    t.since u = t.nanos - u.nanos := by
  simp only [since, subsec, seconds, ht, hu]
  simp only [Bool.false_eq_true, false_and, ↓reduceIte]
  omega

theorem add?_eq_some_of_not_leap {t u : Instant} {d : Int} (ht : t.leap = false) :
    t.add? d = some u ↔ u.nanos = t.nanos + d ∧ u.leap = false := by
  simp only [add?, ht, Bool.false_eq_true, ↓reduceIte, make?]
  obtain ⟨n, l, h1, h2⟩ := u
  constructor
  · intro h
    split at h
    · cases h; exact ⟨rfl, rfl⟩
    · cases h
  · rintro ⟨hn, hl⟩
    simp only at hn hl
    subst hn hl
    rw [dif_pos ⟨h1, h2⟩]

end Instant

end Gatehouse
