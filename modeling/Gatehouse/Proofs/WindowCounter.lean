import Gatehouse.Proofs.InstantOrder
import Gatehouse.RateLimit.Limiter

/-!
# One counter for every key

A limiter keeps the counters of all keys in one table and sweeps them away when it sees fit. The reference
below knows the attempts on a single key and nothing else: its window, opened by the first attempt at or after
the end of the one before, and how many attempts fell into it. Both decide alike, so that neither sweeps nor
purges nor the attempts on other keys can ever be noticed.
-/

namespace Gatehouse.Proofs

variable {l : Limiter} {now t ends : Instant} {key : String} {window : Span}

structure OpenWindow where
  opened : Instant
  attempts : Nat
deriving DecidableEq

def OpenWindow.isOver (window : Span) (o : OpenWindow) (t : Instant) : Bool :=
  (o.opened.add? window).any fun ends => ends ≤ t

/-- The window that an attempt falls into, given the one before. -/
def chargeWindow (window : Span) (before : Option OpenWindow) (t : Instant) : OpenWindow :=
  match before with
  | none => ⟨t, 1⟩
  | some o => if o.isOver window t then ⟨t, 1⟩ else ⟨o.opened, o.attempts + 1⟩

/-- The last window of a key after attempts at certain moments, the last one first. -/
def windowOf? (window : Span) : List Instant → Option OpenWindow
  | [] => none
  | t :: earlier => some (chargeWindow window (windowOf? window earlier) t)

inductive LimiterStep where
  | attempt (key : String)
  | purge
deriving DecidableEq

def takeLimiterStep (l : Limiter) (now : Instant) : LimiterStep → Limiter
  | .attempt key => (l.attempt now key).2
  | .purge => (l.purge now).2

/-- Runs steps at their clock readings, the last one first in the list. -/
def limiterRun (l : Limiter) : List (Instant × LimiterStep) → Limiter
  | [] => l
  | (now, step) :: earlier => takeLimiterStep (limiterRun l earlier) now step

def attemptsOn (key : String) : List (Instant × LimiterStep) → List Instant
  | [] => []
  | (now, .attempt key') :: earlier =>
    if key' = key then now :: attemptsOn key earlier else attemptsOn key earlier
  | (_, .purge) :: earlier => attemptsOn key earlier

lemma attemptsOn_subset (key : String) (steps : List (Instant × LimiterStep)) :
    ∀ r ∈ attemptsOn key steps, r ∈ steps.map Prod.fst := by
  induction steps with
  | nil => exact fun r hr => hr
  | cons last earlier ih =>
    obtain ⟨now, step⟩ := last
    intro r hr
    cases step with
    | attempt key' =>
      rw [attemptsOn] at hr
      split at hr
      · rcases List.mem_cons.1 hr with rfl | hr
        · exact List.mem_cons_self
        · exact List.mem_cons_of_mem now (ih r hr)
      · exact List.mem_cons_of_mem now (ih r hr)
    | purge => exact List.mem_cons_of_mem now (ih r hr)

/-- The attempts on a key from which the end of a window can be reckoned with. Any other breaks down and
counts for nothing. -/
def countedOn (window : Span) (key : String) (steps : List (Instant × LimiterStep)) : List Instant :=
  (attemptsOn key steps).filter fun r => (r.add? window).isSome

lemma countedOn_of_inRange {steps : List (Instant × LimiterStep)}
    (hrange : ∀ r ∈ steps.map Prod.fst, r.add? window ≠ none) (key : String) :
    countedOn window key steps = attemptsOn key steps :=
  List.filter_eq_self.2 fun r hr => Option.isSome_iff_ne_none.2 (hrange r (attemptsOn_subset key steps r hr))

lemma opened_mem {o : OpenWindow} {times : List Instant} (h : windowOf? window times = some o) :
    o.opened ∈ times := by
  induction times generalizing o with
  | nil => cases h
  | cons t earlier ih =>
    rw [windowOf?] at h
    cases h
    cases hbefore : windowOf? window earlier with
    | none => exact List.mem_cons_self
    | some before =>
      have hmem : before.opened ∈ earlier := ih hbefore
      rw [chargeWindow]
      split
      · exact List.mem_cons_self
      · exact List.mem_cons_of_mem t hmem

/-- The counter of a key shows the window of the key, unless that is over and the counter was swept away. -/
structure Mirrors (l : Limiter) (now : Instant) (key : String) (seen : Option OpenWindow) : Prop where
  counted : ∀ c, l.counter? key = some c →
    ∃ o, seen = some o ∧ o.attempts = c.count ∧ o.opened.add? l.window.window = some c.resetsAt
  swept : l.counter? key = none → ∀ o, seen = some o → o.isOver l.window.window now = true

variable {seen : Option OpenWindow}

lemma isOver_of_ends {o : OpenWindow} (h : o.opened.add? window = some ends) :
    o.isOver window t = decide (ends ≤ t) := by
  rw [OpenWindow.isOver, h]
  rfl

lemma isOver_later {o : OpenWindow} (hle : now ≤ t) (hover : o.isOver window now = true) :
    o.isOver window t = true := by
  cases hends : o.opened.add? window with
  | none =>
    rw [OpenWindow.isOver, hends] at hover
    cases hover
  | some ends =>
    rw [isOver_of_ends hends] at hover ⊢
    exact decide_eq_true (instant_le_trans (of_decide_eq_true hover) hle)

lemma mirrors_later (h : Mirrors l now key seen) (hle : now ≤ t) : Mirrors l t key seen where
  counted := h.counted
  swept := fun hnone o ho => isOver_later hle (h.swept hnone o ho)

/-- A sweep takes nothing away but what an attempt would replace. -/
lemma mirrors_sweep (h : Mirrors l now key seen) : Mirrors (l.sweep now) now key seen := by
  refine ⟨fun c hc => ?_, fun hnone o ho => ?_⟩
  · rw [Limiter.counter?_sweep, Option.filter_eq_some_iff] at hc
    exact h.counted c hc.1
  · rw [Limiter.counter?_sweep] at hnone
    cases hcounter : l.counter? key with
    | none => exact h.swept hcounter o ho
    | some c =>
      obtain ⟨o', ho', _, hends⟩ := h.counted c hcounter
      obtain rfl : o = o' := Option.some.inj (ho.symm.trans ho')
      rw [hcounter, Option.filter_some] at hnone
      show o.isOver l.window.window now = true
      rw [isOver_of_ends hends]
      split at hnone
      · cases hnone
      · rename_i hlt
        exact decide_eq_true (instant_not_lt.1 fun hkept => hlt (decide_eq_true hkept))

lemma mirrors_charge (h : Mirrors l now key seen) (hends : now.add? l.window.window = some ends) :
    (chargeWindow l.window.window seen now).attempts = (Counter.charge (l.counter? key) now ends).count ∧
      (chargeWindow l.window.window seen now).opened.add? l.window.window =
        some (Counter.charge (l.counter? key) now ends).resetsAt := by
  cases hcounter : l.counter? key with
  | none =>
    cases hseen : seen with
    | none => exact ⟨rfl, hends⟩
    | some o =>
      rw [chargeWindow, if_pos (h.swept hcounter o hseen)]
      exact ⟨rfl, hends⟩
  | some c =>
    obtain ⟨o, rfl, hcount, hreset⟩ := h.counted c hcounter
    simp only [chargeWindow, Counter.charge, isOver_of_ends hreset, decide_eq_true_eq]
    split
    · exact ⟨rfl, hends⟩
    · exact ⟨congrArg (· + 1) hcount, hreset⟩

def sweepIfDue (l : Limiter) (now : Instant) : Limiter := if l.nextSweep ≤ now then l.sweep now else l

lemma sweepIfDue_window (l : Limiter) (now : Instant) : (sweepIfDue l now).window = l.window := by
  unfold sweepIfDue
  split <;> rfl

lemma mirrors_sweepIfDue (h : Mirrors l now key seen) : Mirrors (sweepIfDue l now) now key seen := by
  unfold sweepIfDue
  split
  · exact mirrors_sweep h
  · exact h

def countAttempt (l : Limiter) (now ends : Instant) (key : String) (nextSweep : Instant) : Limiter :=
  { l with
    counters := l.counters.insert (l.window.key key) (Counter.charge (l.counter? key) now ends)
    nextSweep := nextSweep }

/-- As long as the end of a window that opens now can be reckoned with, an attempt is decided. -/
lemma attempt_eq (key : String) (hends : now.add? l.window.window = some ends) :
    l.attempt now key =
      (some (.ok (l.verdict (Counter.charge ((sweepIfDue l now).counter? key) now ends) now)),
        countAttempt (sweepIfDue l now) now ends key (if l.nextSweep ≤ now then ends else l.nextSweep)) := by
  have hspan : ¬ Span.longest < l.window.window := Nat.not_lt.2 (le_longest_of_add? hends)
  unfold Limiter.attempt sweepIfDue countAttempt
  rw [if_neg hspan]
  by_cases hdue : l.nextSweep ≤ now
  · simp only [hdue, decide_true, if_true, Limiter.sweep, hends]
    rfl
  · simp only [hdue, decide_false, Bool.false_eq_true, if_false, hends]

/-- Where the end of a window cannot be reckoned with, an attempt is not decided. A sweep that was due takes
place all the same, unless the window is too long to be reckoned with at all. -/
lemma attempt_eq_of_out_of_range (key : String) (hends : now.add? l.window.window = none) :
    l.attempt now key =
      if Span.longest < l.window.window then (some (.error .spanOutOfRange), l)
        else (none, sweepIfDue l now) := by
  unfold Limiter.attempt sweepIfDue
  split
  · rfl
  · by_cases hdue : l.nextSweep ≤ now
    · simp only [hdue, decide_true, if_true, Limiter.sweep, hends]
    · simp only [hdue, decide_false, Bool.false_eq_true, if_false, hends]

lemma attempt_window (l : Limiter) (now : Instant) (key : String) :
    (l.attempt now key).2.window = l.window := by
  cases hends : now.add? l.window.window with
  | none =>
    rw [attempt_eq_of_out_of_range key hends]
    split
    · rfl
    · exact sweepIfDue_window l now
  | some ends =>
    rw [attempt_eq key hends]
    exact sweepIfDue_window l now

lemma takeLimiterStep_window (l : Limiter) (now : Instant) (step : LimiterStep) :
    (takeLimiterStep l now step).window = l.window := by
  cases step with
  | attempt key => exact attempt_window l now key
  | purge => rfl

lemma limiterRun_window (l : Limiter) (steps : List (Instant × LimiterStep)) :
    (limiterRun l steps).window = l.window := by
  induction steps with
  | nil => rfl
  | cons last earlier ih => exact (takeLimiterStep_window _ last.1 last.2).trans ih

lemma counter?_countAttempt (l : Limiter) (now ends : Instant) (key key' : String) (nextSweep : Instant) :
    (countAttempt l now ends key' nextSweep).counter? key =
      if key = key' then some (Counter.charge (l.counter? key') now ends) else l.counter? key := by
  show (l.counters.insert (l.window.key key') _).get? (l.window.key key) = _
  rw [Table.get?_insert]
  simp only [FixedWindow.key, String.append_right_inj]
  rfl

lemma mirrors_countAttempt (h : Mirrors l now key seen) (hends : now.add? l.window.window = some ends)
    (key' : String) (nextSweep : Instant) :
    Mirrors (countAttempt l now ends key' nextSweep) now key
      (if key' = key then some (chargeWindow l.window.window seen now) else seen) := by
  by_cases hkey : key' = key
  · subst hkey
    obtain ⟨hattempts, hreset⟩ := mirrors_charge h hends
    rw [if_pos rfl]
    refine ⟨fun c hc => ?_, fun hnone => ?_⟩
    · rw [counter?_countAttempt, if_pos rfl] at hc
      cases hc
      exact ⟨_, rfl, hattempts, hreset⟩
    · rw [counter?_countAttempt, if_pos rfl] at hnone
      cases hnone
  · rw [if_neg hkey]
    refine ⟨fun c hc => ?_, fun hnone => ?_⟩
    · rw [counter?_countAttempt, if_neg (Ne.symm hkey)] at hc
      exact h.counted c hc
    · rw [counter?_countAttempt, if_neg (Ne.symm hkey)] at hnone
      exact h.swept hnone

/-- An attempt on a key is seen in the counter of that key, if the end of a window can be reckoned with, and
in no other. -/
lemma mirrors_attempt (h : Mirrors l now key seen) (key' : String) :
    Mirrors (l.attempt now key').2 now key
      (if key' = key ∧ (now.add? l.window.window).isSome then some (chargeWindow l.window.window seen now)
        else seen) := by
  cases hends : now.add? l.window.window with
  | none =>
    have huncounted : ¬ (key' = key ∧ (none : Option Instant).isSome = true) :=
      fun h => Bool.false_ne_true h.2
    rw [if_neg huncounted, attempt_eq_of_out_of_range key' hends]
    split
    · exact h
    · exact mirrors_sweepIfDue h
  | some ends =>
    have hwindow := sweepIfDue_window l now
    have hcounted := mirrors_countAttempt (mirrors_sweepIfDue h) (by rw [hwindow]; exact hends) key'
      (if l.nextSweep ≤ now then ends else l.nextSweep)
    rw [hwindow] at hcounted
    rw [attempt_eq key' hends]
    simpa only [Option.isSome_some, and_true] using hcounted

lemma windowOf?_countedOn_attempt (key key' : String) (now : Instant) (steps : List (Instant × LimiterStep)) :
    windowOf? window (countedOn window key ((now, .attempt key') :: steps)) =
      if key' = key ∧ (now.add? window).isSome then
        some (chargeWindow window (windowOf? window (countedOn window key steps)) now)
      else windowOf? window (countedOn window key steps) := by
  unfold countedOn
  rw [attemptsOn]
  by_cases hkey : key' = key
  · rw [if_pos hkey, List.filter_cons]
    by_cases hcounted : (now.add? window).isSome = true
    · rw [if_pos hcounted, if_pos ⟨hkey, hcounted⟩, windowOf?]
    · rw [if_neg hcounted, if_neg fun hboth => hcounted hboth.2]
  · rw [if_neg hkey, if_neg fun hboth => hkey hboth.1]

lemma mirrors_step {steps : List (Instant × LimiterStep)}
    (h : Mirrors l now key (windowOf? l.window.window (countedOn l.window.window key steps)))
    (step : LimiterStep) :
    Mirrors (takeLimiterStep l now step) now key
      (windowOf? l.window.window (countedOn l.window.window key ((now, step) :: steps))) := by
  cases step with
  | attempt key' =>
    rw [windowOf?_countedOn_attempt]
    exact mirrors_attempt h key'
  | purge => exact mirrors_sweep h

/-- After every run the counter of every key shows the window that the reference has for the attempts that
count. -/
lemma limiterRun_mirrors_counted (w : FixedWindow) (start : Instant) (steps : List (Instant × LimiterStep))
    (t : Instant) (key : String) (hclock : Forward (t :: steps.map Prod.fst)) :
    Mirrors (limiterRun (Limiter.start w start) steps) t key
      (windowOf? w.normalized.window (countedOn w.normalized.window key steps)) := by
  -- the simulation holds at the last reading and is carried on to any later one
  induction steps generalizing t with
  | nil =>
    refine ⟨fun c hc => ?_, fun _ o ho => ?_⟩
    · cases hc
    · cases ho
  | cons last earlier ih =>
    obtain ⟨hlater, hearlier⟩ := List.pairwise_cons.1 hclock
    have hwindow : (limiterRun (Limiter.start w start) earlier).window = w.normalized :=
      limiterRun_window _ earlier
    have hmirrors := ih last.1 hearlier
    rw [← hwindow] at hmirrors ⊢
    exact mirrors_later (mirrors_step hmirrors last.2) (hlater last.1 List.mem_cons_self)

lemma limiterRun_mirrors (w : FixedWindow) (start : Instant) (steps : List (Instant × LimiterStep))
    (t : Instant) (key : String) (hclock : Forward (t :: steps.map Prod.fst))
    (hrange : ∀ r ∈ steps.map Prod.fst, r.add? w.normalized.window ≠ none) :
    (limiterRun (Limiter.start w start) steps).window = w.normalized ∧
      Mirrors (limiterRun (Limiter.start w start) steps) t key
        (windowOf? w.normalized.window (attemptsOn key steps)) := by
  have hmirrors := limiterRun_mirrors_counted w start steps t key hclock
  rw [countedOn_of_inRange hrange] at hmirrors
  exact ⟨limiterRun_window _ steps, hmirrors⟩

lemma normalized_nonzero (w : FixedWindow) : w.normalized.limit ≠ 0 ∧ w.normalized.window ≠ 0 := by
  unfold FixedWindow.normalized
  refine ⟨?_, ?_⟩
  · by_cases hlimit : w.limit = 0
    · simp only [if_pos hlimit]
      decide
    · simp only [if_neg hlimit]
      exact hlimit
  · by_cases hwindow : w.window = 0
    · simp only [if_pos hwindow]
      decide
    · simp only [if_neg hwindow]
      exact hwindow

lemma lt_of_chargeWindow (hpos : 0 < window) (hnow : now.leap = false)
    (hends : (chargeWindow window seen now).opened.add? window = some ends) : now < ends := by
  have hopens : now.add? window = some ends → now < ends := by
    intro hadd
    obtain ⟨hnanos, hleap⟩ := add?_ordinary hnow hadd
    have hforward : (0 : Int) < window := Int.natCast_pos.2 hpos
    rw [Instant.lt_iff_nanos_lt hnow hleap]
    omega
  cases seen with
  | none => exact hopens hends
  | some o =>
    rw [chargeWindow] at hends
    split at hends
    · exact hopens hends
    · rename_i hover
      have hopen : o.opened.add? window = some ends := hends
      rw [isOver_of_ends hopen, decide_eq_true_eq] at hover
      exact instant_not_le.1 hover

/-- Of a window that is not over there is something left, and no more than there was. -/
lemma since_of_window {o : OpenWindow} (hopened : o.opened.leap = false) (hnow : now.leap = false)
    (hbegun : o.opened ≤ now) (hends : o.opened.add? window = some ends) (hlt : now < ends) :
    ((ends.since now).toNat : Int) = o.opened.nanos + window - now.nanos ∧
      0 < (ends.since now).toNat ∧ (ends.since now).toNat ≤ window := by
  obtain ⟨hnanos, hleap⟩ := add?_ordinary hopened hends
  rw [Instant.lt_iff_nanos_lt hnow hleap] at hlt
  rw [Instant.le_iff_nanos_le hopened hnow] at hbegun
  rw [Instant.since_of_not_leap hleap hnow]
  refine ⟨?_, ?_, Int.ofNat_le.1 ?_⟩
  · omega
  · omega
  · omega

/-- Every attempt is decided as by the reference for its key alone. What is left of the window is told along
with it; outside of leap seconds that is more than nothing and no more than a whole window. -/
theorem attempt_as_reference (w : FixedWindow) (start : Instant) (steps : List (Instant × LimiterStep))
    (t : Instant) (key : String) (hclock : Forward (t :: steps.map Prod.fst))
    (hrange : ∀ r ∈ t :: steps.map Prod.fst, r.add? w.normalized.window ≠ none) :
    let own := chargeWindow w.normalized.window (windowOf? w.normalized.window (attemptsOn key steps)) t
    w.normalized.limit ≠ 0 ∧ w.normalized.window ≠ 0 ∧
      ∃ ends d, own.opened.add? w.normalized.window = some ends ∧
        ((limiterRun (Limiter.start w start) steps).attempt t key).1 = some (.ok d) ∧
        (d.allowed = true ↔ own.attempts ≤ w.normalized.limit.toNat) ∧
        d.retryAfter = (ends.since t).toNat ∧
        ((∀ r ∈ t :: steps.map Prod.fst, r.leap = false) →
          (d.retryAfter : Int) = own.opened.nanos + w.normalized.window - t.nanos ∧
            0 < d.retryAfter ∧ d.retryAfter ≤ w.normalized.window) := by
  intro own
  obtain ⟨hlater, _⟩ := List.pairwise_cons.1 hclock
  obtain ⟨hwindow, hmirrors⟩ := limiterRun_mirrors w start steps t key hclock fun r hr =>
    hrange r (List.mem_cons_of_mem t hr)
  obtain ⟨next, hnext⟩ := Option.ne_none_iff_exists'.1 (hrange t List.mem_cons_self)
  obtain ⟨hlimit, hpos⟩ := normalized_nonzero w
  generalize limiterRun (Limiter.start w start) steps = l at hwindow hmirrors ⊢
  rw [← hwindow] at hnext
  have hswept := mirrors_sweepIfDue hmirrors
  obtain ⟨hattempts, hends⟩ := mirrors_charge hswept (by rw [sweepIfDue_window]; exact hnext)
  rw [sweepIfDue_window, hwindow] at hattempts hends
  have hanswer : (l.attempt t key).1 =
      some (.ok (l.verdict (Counter.charge ((sweepIfDue l t).counter? key) t next) t)) := by
    rw [attempt_eq key hnext]
  refine ⟨hlimit, hpos, _, _, hends, hanswer, ?_, rfl, fun hordinary => ?_⟩
  · show decide _ = true ↔ _
    rw [decide_eq_true_eq, hwindow]
    exact iff_of_eq (congrArg (· ≤ _) hattempts.symm)
  · have ht : t.leap = false := hordinary t List.mem_cons_self
    have hopened : own.opened ∈ t :: attemptsOn key steps := opened_mem rfl
    have hreading : own.opened ∈ t :: steps.map Prod.fst :=
      List.mem_cons.2 ((List.mem_cons.1 hopened).imp_right (attemptsOn_subset key steps _))
    have ho : own.opened.leap = false := hordinary _ hreading
    have hbefore : own.opened ≤ t := by
      rcases List.mem_cons.1 hreading with heq | hearlier
      · rw [heq]
        exact instant_le_refl t
      · exact hlater _ hearlier
    have hlt := lt_of_chargeWindow (Nat.pos_of_ne_zero hpos) ht hends
    exact since_of_window ho ht hbefore hends hlt

def pairPerMinute : FixedWindow := { limit := 2, window := Span.ofSecs 60 }

def crowdedSteps : List (Instant × LimiterStep) :=
  [(atSecond 30, .attempt "a"), (atSecond 20, .purge), (atSecond 10, .attempt "b"),
    (atSecond 0, .attempt "a")]

/-- The third attempt within a minute is one too many, and there is a second left of the window. -/
theorem attempt_as_reference_third :
    Forward (atSecond 59 :: crowdedSteps.map Prod.fst) ∧
      (∀ r ∈ atSecond 59 :: crowdedSteps.map Prod.fst, r.add? pairPerMinute.normalized.window ≠ none) ∧
      ∃ d, ((limiterRun (Limiter.start pairPerMinute .epoch) crowdedSteps).attempt (atSecond 59) "a").1 =
          some (.ok d) ∧ d.allowed = false ∧ (d.retryAfter : Int) = 1000000000 := by
  have hclock : Forward (atSecond 59 :: crowdedSteps.map Prod.fst) := by decide
  have hrange : ∀ r ∈ atSecond 59 :: crowdedSteps.map Prod.fst,
      r.add? pairPerMinute.normalized.window ≠ none := by decide +kernel
  obtain ⟨_, _, ends, d, _, hanswer, hallowed, _, hretry⟩ :=
    attempt_as_reference pairPerMinute .epoch crowdedSteps (atSecond 59) "a" hclock hrange
  have hown : chargeWindow pairPerMinute.normalized.window
      (windowOf? pairPerMinute.normalized.window (attemptsOn "a" crowdedSteps)) (atSecond 59) =
        ⟨atSecond 0, 3⟩ := by decide +kernel
  rw [hown] at hallowed hretry
  refine ⟨hclock, hrange, d, hanswer, ?_, ?_⟩
  · exact Bool.eq_false_iff.2 (mt hallowed.1 (by decide))
  · rw [(hretry (by decide)).1]
    decide

end Gatehouse.Proofs
