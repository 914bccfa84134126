import Gatehouse.Time.Instant
import Mathlib.Tactic.Lemma

/-!
# The order of instants

Instants are ordered by their position, leap seconds included, and a span moves an instant forward.
Outside of leap seconds positions and nanoseconds order alike, so that arithmetic is that of integers.
-/

namespace Gatehouse.Proofs

variable {t u v : Instant} {d e : Int}

/-- Readings of a clock, the last one first. The clock never goes back. -/
def Forward (readings : List Instant) : Prop := readings.Pairwise fun later earlier => earlier ≤ later

instance (readings : List Instant) : Decidable (Forward readings) :=
  inferInstanceAs (Decidable (readings.Pairwise fun later earlier => earlier ≤ later))

/-- The instant that comes a number of seconds after the epoch, up to a last one in the year 2106. -/
def atSecond (n : Nat) : Instant := ⟨(min n 4294967295 : Nat) * 1000000000, false, by omega, by omega⟩

lemma instant_le_iff : t ≤ u ↔ t.position ≤ u.position := Iff.rfl

lemma instant_le_refl (t : Instant) : t ≤ t := Int.le_refl _

lemma instant_le_trans (htu : t ≤ u) (huv : u ≤ v) : t ≤ v := Int.le_trans htu huv

lemma instant_lt_of_le_of_lt (htu : t ≤ u) (huv : u < v) : t < v := Int.lt_of_le_of_lt htu huv

lemma instant_not_lt : ¬ t < u ↔ u ≤ t := Int.not_lt

lemma instant_not_le : ¬ t ≤ u ↔ u < t := Int.not_le

lemma instant_eq_of_position (h : t.position = u.position) : t = u := by
  have hspelled : t.nanos = u.nanos ∧ t.leap = u.leap := by
    simp only [Instant.position, Instant.seconds, Instant.subsec] at h
    cases ht : t.leap <;> cases hu : u.leap <;> simp only [ht, hu, Bool.false_eq_true, if_true, if_false] at h
    · exact ⟨by omega, rfl⟩
    · omega
    · omega
    · exact ⟨by omega, rfl⟩
  obtain ⟨n, l, _, _⟩ := t
  obtain ⟨n', l', _, _⟩ := u
  obtain ⟨rfl, rfl⟩ := hspelled
  rfl

lemma earlier_le_left (t u : Instant) : t.earlier u ≤ t := by
  unfold Instant.earlier
  split
  · rename_i h
    exact Int.le_of_lt h
  · exact instant_le_refl t

lemma earlier_le_right (t u : Instant) : t.earlier u ≤ u := by
  unfold Instant.earlier
  split
  · exact instant_le_refl u
  · rename_i h
    exact instant_not_lt.1 h

lemma le_earlier (ht : v ≤ t) (hu : v ≤ u) : v ≤ t.earlier u := by
  unfold Instant.earlier
  split
  · exact hu
  · exact ht

lemma earlier_leap (ht : t.leap = false) (hu : u.leap = false) : (t.earlier u).leap = false := by
  unfold Instant.earlier
  split
  · exact hu
  · exact ht

lemma make?_eq_some {n : Int} {leap : Bool} (h : Instant.make? n leap = some u) :
    u.nanos = n ∧ u.leap = leap := by
  unfold Instant.make? at h
  split at h
  · cases h
    exact ⟨rfl, rfl⟩
  · cases h

/-- Moving forward leads to a later instant, even out of a leap second. -/
lemma lt_add? (hd : 0 < d) (h : t.add? d = some u) : t < u := by
  show t.position < u.position
  unfold Instant.add? at h
  cases hleap : t.leap with
  | false =>
    rw [hleap] at h
    obtain ⟨hn, hl⟩ := make?_eq_some h
    simp only [Instant.position, Instant.seconds, Instant.subsec, hleap, hl, hn]
    simp only [Bool.false_eq_true, if_false]
    omega
  | true =>
    rw [hleap, if_pos rfl] at h
    split at h
    · obtain ⟨hn, hl⟩ := make?_eq_some h
      simp only [Instant.position, Instant.seconds, Instant.subsec, hleap, hl, hn]
      simp only [Bool.false_eq_true, if_false, if_true]
      omega
    · rename_i hend
      rw [if_pos (by omega)] at h
      obtain ⟨hn, hl⟩ := make?_eq_some h
      simp only [Instant.position, Instant.seconds, Instant.subsec, hleap, hl, hn]
      simp only [if_true]
      omega

lemma add?_zero (t : Instant) : t.add? 0 = some t := by
  obtain ⟨n, leap, hfrom, hto⟩ := t
  have hstays : ∀ leap, Instant.make? (n + 0) leap = some ⟨n, leap, hfrom, hto⟩ := by
    intro leap
    unfold Instant.make?
    rw [dif_pos ⟨by omega, by omega⟩]
    simp only [Int.add_zero]
  unfold Instant.add?
  cases leap with
  | false => exact hstays false
  | true =>
    rw [if_pos rfl, if_neg (by show ¬ 1000000000 ≤ n % 1000000000 + 0; omega),
      if_pos (by show 0 ≤ n % 1000000000 + 0; omega)]
    exact hstays true

lemma le_add? (hd : 0 ≤ d) (h : t.add? d = some u) : t ≤ u := by
  rcases Int.lt_or_eq_of_le hd with hpos | rfl
  · exact Int.le_of_lt (lt_add? hpos h)
  · cases (add?_zero t).symm.trans h
    exact instant_le_refl t

lemma add?_ordinary (ht : t.leap = false) (h : t.add? d = some u) :
    u.nanos = t.nanos + d ∧ u.leap = false :=
  (Instant.add?_eq_some_of_not_leap ht).1 h

/-- Moving forward counts nanoseconds, from within a leap second as well. -/
lemma nanos_add? (hd : 0 ≤ d) (h : t.add? d = some u) : u.nanos = t.nanos + d := by
  unfold Instant.add? at h
  split at h
  · split at h
    · exact (make?_eq_some h).1
    · rw [if_pos (by omega)] at h
      exact (make?_eq_some h).1
  · exact (make?_eq_some h).1

lemma make?_of_room (leap : Bool) (hd : 0 ≤ d) (hroom : t.nanos + d ≤ 8210266876799999999999) :
    ∃ u, Instant.make? (t.nanos + d) leap = some u := by
  have hstart := t.earliest_le
  unfold Instant.make?
  rw [dif_pos ⟨by omega, hroom⟩]
  exact ⟨_, rfl⟩

lemma add?_of_le (hd : 0 ≤ d) (hroom : t.nanos + d ≤ 8210266876799999999999) : ∃ u, t.add? d = some u := by
  unfold Instant.add?
  split
  · split
    · exact make?_of_room false hd hroom
    · rw [if_pos (by omega)]
      exact make?_of_room true hd hroom
  · exact make?_of_room false hd hroom

lemma le_longest_of_add? {d : Span} (h : t.add? d = some u) : d ≤ Span.longest := by
  have hnanos := nanos_add? (Int.natCast_nonneg d) h
  have ht := t.earliest_le
  have hu := u.le_latest
  have hlongest : ((Span.longest : Nat) : Int) = 9223372036854775807000000 := rfl
  exact Int.ofNat_le.1 (by omega)

lemma subsec_bounds (t : Instant) : 0 ≤ t.subsec ∧ t.subsec < 2000000000 := by
  unfold Instant.subsec
  split <;> omega

lemma since_lt (t u : Instant) : t.since u < 20000000000000000000000 := by
  have hseconds : t.seconds - u.seconds ≤ 16544868105601 := by
    have ht := t.le_latest
    have hu := u.earliest_le
    unfold Instant.seconds
    omega
  have ht := subsec_bounds t
  have hu := subsec_bounds u
  unfold Instant.since
  split
  · omega
  · split <;> omega

/-- The distance to an instant before another is hardly longer than the distance to the other. -/
lemma since_le (t : Instant) (hle : u ≤ v) : u.since t ≤ v.nanos + 2000000000 - t.nanos := by
  have hu := subsec_bounds u
  have hv := subsec_bounds v
  rw [instant_le_iff, Instant.position, Instant.position] at hle
  have hseconds : u.seconds ≤ v.seconds := by omega
  have hstart : v.seconds * 1000000000 ≤ v.nanos := by
    unfold Instant.seconds
    omega
  have hplace : t.nanos = t.seconds * 1000000000 + t.subsec - (if t.leap then 1000000000 else 0) := by
    unfold Instant.seconds Instant.subsec
    omega
  unfold Instant.since
  cases hleap : t.leap with
  | false =>
    rw [hleap, if_neg Bool.false_ne_true] at hplace
    simp only [Bool.false_eq_true, false_and, if_false]
    split <;> omega
  | true =>
    rw [hleap, if_pos rfl] at hplace
    simp only [true_and]
    split
    · omega
    · split <;> omega

/-- Moving by a second or more leads out of every leap second. -/
lemma add?_of_second_le (hd : 1000000000 ≤ d) : t.add? d = Instant.ofNanos? (t.nanos + d) := by
  unfold Instant.add?
  split
  · rw [if_pos (by omega)]
    rfl
  · rfl

lemma add?_second_ordinary (hd : 1000000000 ≤ d) (h : t.add? d = some u) :
    u.nanos = t.nanos + d ∧ u.leap = false := by
  rw [add?_of_second_le hd] at h
  exact make?_eq_some h

lemma add?_ne_none_iff (hd : 1000000000 ≤ d) : t.add? d ≠ none ↔ t.nanos + d ≤ 8210266876799999999999 := by
  have hstart := t.earliest_le
  rw [add?_of_second_le hd]
  unfold Instant.ofNanos? Instant.make?
  by_cases hroom : t.nanos + d ≤ 8210266876799999999999
  · rw [dif_pos ⟨by omega, hroom⟩]
    exact iff_of_true (Option.some_ne_none _) hroom
  · rw [dif_neg fun hboth => hroom hboth.2]
    exact iff_of_false (fun hne => hne rfl) hroom

lemma earlier_add? (hd : 1000000000 ≤ d) (he : 1000000000 ≤ e) (hu : t.add? d = some u)
    (hv : t.add? e = some v) :
    t.add? (min d e) = some (u.earlier v) := by
  obtain ⟨hnanos, hleap⟩ := add?_second_ordinary hd hu
  obtain ⟨hnanos', hleap'⟩ := add?_second_ordinary he hv
  have hlt := Instant.lt_iff_nanos_lt hleap' hleap
  unfold Instant.earlier
  by_cases hbefore : v < u
  · have hshorter : min d e = e := by
      have := hlt.1 hbefore
      omega
    rw [if_pos hbefore, hshorter, hv]
  · have hshorter : min d e = d := by
      have : ¬ v.nanos < u.nanos := fun h => hbefore (hlt.2 h)
      omega
    rw [if_neg hbefore, hshorter, hu]

/-- From within a leap second the way to its end may count for nothing. -/
lemma since_le_of_add? (hd : 1000000000 ≤ d) (h : t.add? d = some u) : u.since t ≤ d := by
  obtain ⟨hnanos, hleap⟩ := add?_second_ordinary hd h
  unfold Instant.since Instant.subsec Instant.seconds
  rw [hleap, hnanos]
  simp only [Bool.false_eq_true, if_false, false_and]
  cases t.leap with
  | false =>
    simp only [Bool.false_eq_true, if_false, false_and]
    omega
  | true =>
    simp only [if_true, true_and]
    split <;> omega

end Gatehouse.Proofs
