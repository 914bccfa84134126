import Gatehouse.Error
import Gatehouse.Proofs.WindowCounter
import Mathlib.Order.Bounds.Defs

/-!
# When to try again

Whoever is refused an attempt is told how long to wait. Until that time is over no attempt on the key can
succeed, and the first one after it does, for it opens a new window: attempts that are refused in the
meantime move nothing. The time is told in whole seconds, rounded up, and so waiting as many seconds is
always enough.
-/

namespace Gatehouse.Proofs

variable {window : Span} {own : OpenWindow} {times newer : List Instant} {now t ends : Instant} {key : String}
  {l : Limiter}

lemma secsUp_le_iff {d m : Nat} : Span.secsUp d ≤ m ↔ d ≤ Span.ofSecs m := by
  show (d + 999999999) / 1000000000 ≤ m ↔ d ≤ m * 1000000000
  omega

lemma secsUp_mono {d e : Span} (hle : d ≤ e) : d.secsUp ≤ e.secsUp :=
  secsUp_le_iff.2 (Nat.le_trans hle (secsUp_le_iff.1 (Nat.le_refl e.secsUp)))

lemma isLeast_secsUp (d : Span) : IsLeast {m | 1 ≤ m ∧ d ≤ Span.ofSecs m} (max 1 d.secsUp) := by
  refine ⟨⟨Nat.le_max_left 1 _, secsUp_le_iff.1 (Nat.le_max_right 1 _)⟩, fun m hm => ?_⟩
  exact Nat.max_le.2 ⟨hm.1, secsUp_le_iff.2 hm.2⟩

/-- Between two instants there are never more seconds than can be told. -/
lemma retryAfterSecs?_since (ends t : Instant) :
    retryAfterSecs? (ends.since t).toNat = some (max 1 (Span.secsUp (ends.since t).toNat)) := by
  have hshort : Span.secsUp (ends.since t).toNat ≤ 20000000000000 := by
    have hlt := since_lt ends t
    refine secsUp_le_iff.2 ?_
    show (ends.since t).toNat ≤ 20000000000000 * 1000000000
    omega
  exact if_pos (Nat.lt_of_le_of_lt hshort (by decide))

lemma isOver_iff (hends : own.opened.add? window = some ends) : own.isOver window t = true ↔ ends ≤ t := by
  rw [isOver_of_ends hends, decide_eq_true_eq]

lemma chargeWindow_of_lt (own : OpenWindow) (hends : own.opened.add? window = some ends) (hlt : t < ends) :
    chargeWindow window (some own) t = ⟨own.opened, own.attempts + 1⟩ :=
  if_neg fun hover => instant_not_le.2 hlt ((isOver_iff hends).1 hover)

lemma chargeWindow_of_le (own : OpenWindow) (hends : own.opened.add? window = some ends) (hle : ends ≤ t) :
    chargeWindow window (some own) t = ⟨t, 1⟩ :=
  if_pos ((isOver_iff hends).2 hle)

lemma windowOf?_while_open (hown : windowOf? window times = some own)
    (hends : own.opened.add? window = some ends) (hopen : ∀ r ∈ newer, r < ends) :
    windowOf? window (newer ++ times) = some ⟨own.opened, own.attempts + newer.length⟩ := by
  induction newer with
  | nil => exact hown
  | cons r newer ih =>
    have hbefore := ih fun s hs => hopen s (List.mem_cons_of_mem r hs)
    rw [List.cons_append, windowOf?, hbefore,
      chargeWindow_of_lt ⟨own.opened, own.attempts + newer.length⟩ hends (hopen r List.mem_cons_self)]
    rfl

def Allowed (answer : Option (Except StoreFault Decision)) : Prop :=
  ∃ d, answer = some (.ok d) ∧ d.allowed = true

def Refused (answer : Option (Except StoreFault Decision)) : Prop :=
  ∃ d, answer = some (.ok d) ∧ d.allowed = false

lemma not_refused_of_allowed {answer : Option (Except StoreFault Decision)} (h : Allowed answer) :
    ¬ Refused answer := by
  rintro ⟨d, hd, hrefused⟩
  obtain ⟨d', hd', hallowed⟩ := h
  cases hd.symm.trans hd'
  exact Bool.false_ne_true (hrefused.symm.trans hallowed)

/-- An attempt is decided by the window that it falls into. -/
lemma attempt_decided {before : Option OpenWindow} (h : Mirrors l now key before)
    (hrange : now.add? l.window.window ≠ none) :
    ∃ ends, (chargeWindow l.window.window before now).opened.add? l.window.window = some ends ∧
      (l.attempt now key).1 = some (.ok
        ⟨(chargeWindow l.window.window before now).attempts ≤ l.window.limit.toNat,
          (ends.since now).toNat⟩) := by
  obtain ⟨next, hnext⟩ := Option.ne_none_iff_exists'.1 hrange
  have hswept := mirrors_sweepIfDue h
  have hwindow := sweepIfDue_window l now
  obtain ⟨hattempts, hends⟩ := mirrors_charge hswept (by rw [hwindow]; exact hnext)
  rw [hwindow] at hattempts hends
  refine ⟨_, hends, ?_⟩
  rw [attempt_eq key hnext, hattempts]
  rfl

lemma limiterRun_append (l : Limiter) (later earlier : List (Instant × LimiterStep)) :
    limiterRun l (later ++ earlier) = limiterRun (limiterRun l earlier) later := by
  induction later with
  | nil => rfl
  | cons last later ih => exact congrArg (fun l => takeLimiterStep l last.1 last.2) ih

lemma attemptsOn_append (key : String) (later earlier : List (Instant × LimiterStep)) :
    attemptsOn key (later ++ earlier) = attemptsOn key later ++ attemptsOn key earlier := by
  induction later with
  | nil => rfl
  | cons last later ih =>
    obtain ⟨now, step⟩ := last
    cases step with
    | attempt key' =>
      simp only [List.cons_append, attemptsOn, ih]
      split <;> rfl
    | purge => exact ih

/-- All attempts on a key are refused in a run from a limiter on. -/
def RefusedThroughout (l : Limiter) (key : String) : List (Instant × LimiterStep) → Prop
  | [] => True
  | (now, step) :: earlier =>
    (step = .attempt key → Refused ((limiterRun l earlier).attempt now key).1) ∧
      RefusedThroughout l key earlier

/-- What is known once an attempt was refused: the window that it fell into has had its attempts. -/
structure Exhausted (w : FixedWindow) (start : Instant) (steps : List (Instant × LimiterStep)) (key : String)
    (own : OpenWindow) (ends : Instant) : Prop where
  stands : windowOf? w.normalized.window (attemptsOn key steps) = some own
  lasts : own.opened.add? w.normalized.window = some ends
  spent : w.normalized.limit.toNat < own.attempts

variable {w : FixedWindow} {start : Instant} {earlier later : List (Instant × LimiterStep)} {d : Decision}

lemma attempt_after_run (start : Instant) (key : String) (hclock : Forward (t :: earlier.map Prod.fst))
    (hrange : ∀ r ∈ t :: earlier.map Prod.fst, r.add? w.normalized.window ≠ none) :
    let own := chargeWindow w.normalized.window (windowOf? w.normalized.window (attemptsOn key earlier)) t
    ∃ ends, own.opened.add? w.normalized.window = some ends ∧
      ((limiterRun (Limiter.start w start) earlier).attempt t key).1 =
        some (.ok ⟨own.attempts ≤ w.normalized.limit.toNat, (ends.since t).toNat⟩) := by
  obtain ⟨hwindow, hmirrors⟩ := limiterRun_mirrors w start earlier t key hclock fun r hr =>
    hrange r (List.mem_cons_of_mem t hr)
  have hdecided := attempt_decided hmirrors (by rw [hwindow]; exact hrange t List.mem_cons_self)
  rw [hwindow] at hdecided
  exact hdecided

/-- An attempt is refused only in a window that has had its attempts, and told what is left of that window. -/
lemma exhausted_of_refused (hclock : Forward (t :: earlier.map Prod.fst))
    (hrange : ∀ r ∈ t :: earlier.map Prod.fst, r.add? w.normalized.window ≠ none)
    (hanswer : ((limiterRun (Limiter.start w start) earlier).attempt t key).1 = some (.ok d))
    (hrefused : d.allowed = false) :
    ∃ own ends, Exhausted w start ((t, .attempt key) :: earlier) key own ends ∧
      d.retryAfter = (ends.since t).toNat ∧
      own = chargeWindow w.normalized.window (windowOf? w.normalized.window (attemptsOn key earlier)) t := by
  obtain ⟨ends, hends, hdecided⟩ := attempt_after_run start key hclock hrange
  rw [hanswer] at hdecided
  cases hdecided
  refine ⟨_, ends, ⟨?_, hends, Nat.lt_of_not_le (of_decide_eq_false hrefused)⟩, rfl, rfl⟩
  rw [attemptsOn, if_pos rfl, windowOf?]

lemma refused_of_exhausted {steps : List (Instant × LimiterStep)} {own : OpenWindow}
    (h : Exhausted w start steps key own ends)
    (hclock : Forward (t :: (later ++ steps).map Prod.fst))
    (hrange : ∀ r ∈ t :: (later ++ steps).map Prod.fst, r.add? w.normalized.window ≠ none) (hlt : t < ends) :
    Refused ((limiterRun (Limiter.start w start) (later ++ steps)).attempt t key).1 := by
  obtain ⟨_, _, hdecided⟩ := attempt_after_run start key hclock hrange
  have hopen : ∀ r ∈ attemptsOn key later, r < ends := by
    intro r hr
    have hreading : r ∈ (later ++ steps).map Prod.fst := by
      rw [List.map_append]
      exact List.mem_append_left _ (attemptsOn_subset key later r hr)
    exact instant_lt_of_le_of_lt ((List.pairwise_cons.1 hclock).1 r hreading) hlt
  have hwindow := windowOf?_while_open h.stands h.lasts hopen
  rw [attemptsOn_append, hwindow, chargeWindow_of_lt ⟨own.opened, own.attempts + _⟩ h.lasts hlt] at hdecided
  refine ⟨_, hdecided, decide_eq_false ?_⟩
  have hspent := h.spent
  show ¬ own.attempts + (attemptsOn key later).length + 1 ≤ w.normalized.limit.toNat
  omega

lemma allowed_of_exhausted {steps : List (Instant × LimiterStep)} {own : OpenWindow}
    (h : Exhausted w start steps key own ends)
    (hclock : Forward (t :: (later ++ steps).map Prod.fst))
    (hrange : ∀ r ∈ t :: (later ++ steps).map Prod.fst, r.add? w.normalized.window ≠ none) (hle : ends ≤ t)
    (hfirst : ∀ r ∈ attemptsOn key later, r < ends) :
    Allowed ((limiterRun (Limiter.start w start) (later ++ steps)).attempt t key).1 := by
  obtain ⟨_, _, hdecided⟩ := attempt_after_run start key hclock hrange
  have hwindow := windowOf?_while_open h.stands h.lasts hfirst
  rw [attemptsOn_append, hwindow, chargeWindow_of_le ⟨own.opened, own.attempts + _⟩ h.lasts hle] at hdecided
  refine ⟨_, hdecided, decide_eq_true ?_⟩
  have hlimit : w.normalized.limit.toNat ≠ 0 := fun hzero =>
    (normalized_nonzero w).1 (UInt64.toNat_inj.1 hzero)
  show 1 ≤ w.normalized.limit.toNat
  omega

/-- As long as attempts are refused none of them comes from the end of the window on, as the first of those
would have been allowed. -/
lemma lt_of_refusedThroughout {steps : List (Instant × LimiterStep)} {own : OpenWindow}
    (h : Exhausted w start steps key own ends)
    (hclock : Forward ((later ++ steps).map Prod.fst))
    (hrange : ∀ r ∈ (later ++ steps).map Prod.fst, r.add? w.normalized.window ≠ none)
    (hrefused : RefusedThroughout (limiterRun (Limiter.start w start) steps) key later) :
    ∀ r ∈ attemptsOn key later, r < ends := by
  induction later with
  | nil => exact fun r hr => absurd hr List.not_mem_nil
  | cons last later ih =>
    obtain ⟨now, step⟩ := last
    obtain ⟨hnow, hbefore⟩ := hrefused
    have hearlier :=
      ih (List.pairwise_cons.1 hclock).2 (fun r hr => hrange r (List.mem_cons_of_mem now hr)) hbefore
    cases step with
    | attempt key' =>
      rw [attemptsOn]
      split
      · rename_i hkey
        subst hkey
        refine List.forall_mem_cons.2 ⟨instant_not_le.1 fun hle => ?_, hearlier⟩
        have hallowed := allowed_of_exhausted h hclock hrange hle hearlier
        rw [limiterRun_append] at hallowed
        exact not_refused_of_allowed hallowed (hnow rfl)
      · exact hearlier
    | purge => exact hearlier

/-- Outside of leap seconds the time that is told leads from the attempt to the end of its window. -/
lemma add?_retryAfter {own : OpenWindow} (hopened : own.opened.leap = false) (ht : t.leap = false)
    (hbegun : own.opened ≤ t) (hends : own.opened.add? window = some ends) (hlt : t < ends) :
    t.add? (ends.since t).toNat = some ends ∧ (ends.since t).toNat ≤ window := by
  obtain ⟨hleft, _, hle⟩ := since_of_window hopened ht hbegun hends hlt
  obtain ⟨hnanos, hleap⟩ := add?_ordinary hopened hends
  exact ⟨(Instant.add?_eq_some_of_not_leap ht).2 ⟨by omega, hleap⟩, hle⟩

/-- Once an attempt on a key is refused, every other attempt on it is refused up to the end of the window,
and the first one from there on is allowed, whatever else the limiter is asked for in between; it is the
first if all before it were refused. The seconds to wait that are told are the least whole number, and at
least one, that covers what is left of the window. Outside of leap seconds what is left leads to the end of
the window, and so do the seconds or beyond; they are no more than a whole window has. -/
theorem refused_until_window_ends (w : FixedWindow) (start : Instant)
    (earlier later : List (Instant × LimiterStep)) (t t' : Instant) (key : String) (d : Decision)
    (hclock : Forward (t' :: (later ++ (t, .attempt key) :: earlier).map Prod.fst))
    (hrange : ∀ r ∈ t' :: (later ++ (t, .attempt key) :: earlier).map Prod.fst,
      r.add? w.normalized.window ≠ none)
    (hanswer : ((limiterRun (Limiter.start w start) earlier).attempt t key).1 = some (.ok d))
    (hrefused : d.allowed = false) :
    let refused := limiterRun (Limiter.start w start) ((t, .attempt key) :: earlier)
    let answer := ((limiterRun refused later).attempt t' key).1
    ∃ ends n, retryAfterSecs? d.retryAfter = some n ∧ IsLeast {m | 1 ≤ m ∧ d.retryAfter ≤ Span.ofSecs m} n ∧
      (t' < ends → Refused answer) ∧
      (ends ≤ t' → (∀ r ∈ attemptsOn key later, r < ends) → Allowed answer) ∧
      (ends ≤ t' → RefusedThroughout refused key later → Allowed answer) ∧
      ((∀ r ∈ t' :: (later ++ (t, .attempt key) :: earlier).map Prod.fst, r.leap = false) →
        t.add? d.retryAfter = some ends ∧ (∀ u, t.add? (Span.ofSecs n) = some u → ends ≤ u) ∧
          n ≤ max 1 w.normalized.window.secsUp) := by
  intro refused answer
  have hsuffix : (t :: earlier.map Prod.fst) <:+
      t' :: (later ++ (t, .attempt key) :: earlier).map Prod.fst := by
    rw [List.map_append]
    exact (List.suffix_append _ _).trans (List.suffix_cons t' _)
  have hclock₀ : Forward (t :: earlier.map Prod.fst) := hclock.sublist hsuffix.sublist
  obtain ⟨own, ends, hexhausted, hretry, hown⟩ := exhausted_of_refused hclock₀
    (fun r hr => hrange r (hsuffix.subset hr)) hanswer hrefused
  have hallowed := allowed_of_exhausted hexhausted hclock hrange
  have hturned := refused_of_exhausted hexhausted hclock hrange
  have hfirst := lt_of_refusedThroughout hexhausted (List.pairwise_cons.1 hclock).2
    (fun r hr => hrange r (List.mem_cons_of_mem t' hr))
  rw [limiterRun_append] at hallowed hturned
  rw [hretry]
  refine ⟨ends, _, retryAfterSecs?_since ends t, isLeast_secsUp _, hturned, hallowed,
    fun hle hthroughout => hallowed hle (hfirst hthroughout), fun hordinary => ?_⟩
  have hopened : own.opened ∈ t :: earlier.map Prod.fst := by
    have hmem : own.opened ∈ t :: attemptsOn key earlier := hown ▸ opened_mem rfl
    exact List.mem_cons.2 ((List.mem_cons.1 hmem).imp_right (attemptsOn_subset key earlier _))
  have ht : t.leap = false := hordinary t (hsuffix.subset List.mem_cons_self)
  have hbegun : own.opened ≤ t := by
    rcases List.mem_cons.1 hopened with heq | hbefore
    · rw [heq]
      exact instant_le_refl t
    · exact (List.pairwise_cons.1 hclock₀).1 _ hbefore
  have hlt : t < ends := by
    have hlasts := hexhausted.lasts
    rw [hown] at hlasts
    exact lt_of_chargeWindow (Nat.pos_of_ne_zero (normalized_nonzero w).2) ht hlasts
  obtain ⟨hleads, hshort⟩ :=
    add?_retryAfter (hordinary _ (hsuffix.subset hopened)) ht hbegun hexhausted.lasts hlt
  refine ⟨hleads, fun u hu => ?_, ?_⟩
  · obtain ⟨hends, hendsLeap⟩ := add?_ordinary ht hleads
    obtain ⟨hnanos, huLeap⟩ := add?_ordinary ht hu
    have hcovers : (ends.since t).toNat ≤ Span.ofSecs (max 1 (Span.secsUp (ends.since t).toNat)) :=
      (isLeast_secsUp _).1.2
    rw [Instant.le_iff_nanos_le hendsLeap huLeap]
    omega
  · exact Nat.max_le.2 ⟨Nat.le_max_left 1 _, Nat.le_trans (secsUp_mono hshort) (Nat.le_max_right 1 _)⟩

def busySteps : List (Instant × LimiterStep) := [(atSecond 10, .attempt "a"), (atSecond 0, .attempt "a")]

/-- Another attempt on the key, a purge, and an attempt on another key. -/
def impatientSteps : List (Instant × LimiterStep) :=
  [(atSecond 59, .attempt "a"), (atSecond 40, .purge), (atSecond 30, .attempt "b")]

/-- Twenty seconds into the minute there are forty left. An attempt one second before the end is refused,
and does not keep the one at the end from being allowed. -/
theorem refused_until_window_ends_minute :
    let refused := limiterRun (Limiter.start pairPerMinute .epoch) ((atSecond 20, .attempt "a") :: busySteps)
    Forward (atSecond 60 :: (impatientSteps ++ (atSecond 20, .attempt "a") :: busySteps).map Prod.fst) ∧
      (∀ r ∈ atSecond 60 :: (impatientSteps ++ (atSecond 20, .attempt "a") :: busySteps).map Prod.fst,
        r.add? pairPerMinute.normalized.window ≠ none) ∧
      ((limiterRun (Limiter.start pairPerMinute .epoch) busySteps).attempt (atSecond 20) "a").1 =
        some (.ok ⟨false, Span.ofSecs 40⟩) ∧
      RefusedThroughout refused "a" impatientSteps ∧ retryAfterSecs? (Span.ofSecs 40) = some 40 ∧
      Allowed ((limiterRun refused impatientSteps).attempt (atSecond 60) "a").1 := by
  intro refused
  have hclock :
      Forward (atSecond 60 :: (impatientSteps ++ (atSecond 20, .attempt "a") :: busySteps).map Prod.fst) := by
    decide
  have hrange :
      ∀ r ∈ atSecond 60 :: (impatientSteps ++ (atSecond 20, .attempt "a") :: busySteps).map Prod.fst,
      r.add? pairPerMinute.normalized.window ≠ none := by decide +kernel
  obtain ⟨_, hanswer, rfl⟩ : ∃ d, ((limiterRun (Limiter.start pairPerMinute .epoch) busySteps).attempt
      (atSecond 20) "a").1 = some (.ok d) ∧ d = ⟨false, Span.ofSecs 40⟩ := ⟨_, rfl, by decide +kernel⟩
  have hthroughout : RefusedThroughout refused "a" impatientSteps :=
    ⟨fun _ => ⟨_, rfl, by decide +kernel⟩, nofun, fun h => absurd h (by decide), trivial⟩
  obtain ⟨ends, n, _, _, _, _, hallowed, hordinary⟩ :=
    refused_until_window_ends pairPerMinute .epoch busySteps
    impatientSteps (atSecond 20) (atSecond 60) "a" _ hclock hrange hanswer rfl
  have hends : (atSecond 20).add? (Span.ofSecs 40) = some ends := (hordinary (by decide)).1
  have hle : ends ≤ atSecond 60 := by
    rw [show (atSecond 20).add? (Span.ofSecs 40) = some (atSecond 60) by decide] at hends
    cases hends
    exact instant_le_refl _
  exact ⟨hclock, hrange, hanswer, hthroughout, by decide, hallowed hle hthroughout⟩

end Gatehouse.Proofs
