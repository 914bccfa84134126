import Gatehouse.Proofs.WindowCounter
import Mathlib.Data.List.Dedup

/-!
# How many counters are kept

A limiter sweeps its counters at an attempt, and then not before a window has passed. So counters of windows
that are over do stay for a while. But whatever survived the last sweep had time left then, and no more than
a window has passed since: after an attempt every counter is for a window that was opened less than two
windows ago. There are no more counters than keys with an attempt in that time.
-/

namespace Gatehouse.Proofs

variable {l : Limiter} {now t ends opened : Instant} {key name : String} {window : Span}
  {readings : List Instant} {c : Counter} {w : FixedWindow} {start : Instant}
  {steps : List (Instant × LimiterStep)}

lemma get?_sweep :
    (l.sweep now).counters.get? name = some c ↔ l.counters.get? name = some c ∧ now < c.resetsAt := by
  show (l.counters.filter _).get? name = some c ↔ _
  rw [Table.get?_filter, Option.filter_eq_some_iff, decide_eq_true_eq]

lemma get?_sweepIfDue (h : (sweepIfDue l now).counters.get? name = some c) :
    l.counters.get? name = some c ∧ (l.nextSweep ≤ now → now < c.resetsAt) := by
  unfold sweepIfDue at h
  split at h
  · obtain ⟨hkept, hlt⟩ := get?_sweep.1 h
    exact ⟨hkept, fun _ => hlt⟩
  · rename_i hdue
    exact ⟨h, fun hle => absurd hle hdue⟩

lemma nextSweep_sweepIfDue (l : Limiter) (now : Instant) : (sweepIfDue l now).nextSweep = l.nextSweep := by
  unfold sweepIfDue
  split <;> rfl

/-- Of a window that has just been charged there is something left. -/
lemma lt_resetsAt_charge (before : Option Counter) (hlt : now < ends) :
    now < (Counter.charge before now ends).resetsAt := by
  unfold Counter.charge
  split
  · exact hlt
  · split
    · exact hlt
    · rename_i hopen
      exact instant_not_le.1 hopen

lemma get?_countAttempt {nextSweep : Instant} (hlt : now < ends)
    (h : (countAttempt l now ends key nextSweep).counters.get? name = some c) :
    (name = l.window.key key ∧ now < c.resetsAt) ∨ l.counters.get? name = some c := by
  have hget : (l.counters.insert (l.window.key key) (Counter.charge (l.counter? key) now ends)).get?
    name = some c := h
  rw [Table.get?_insert] at hget
  split at hget
  · rename_i hname
    cases hget
    exact Or.inl ⟨hname, lt_resetsAt_charge _ hlt⟩
  · exact Or.inr hget

/-- A counter that is there after an attempt has just been charged, or has survived the sweep if one was
due. -/
lemma get?_attempt (hpos : 0 < l.window.window) (h : (l.attempt now key).2.counters.get? name = some c) :
    (name = l.window.key key ∧ now < c.resetsAt) ∨
      l.counters.get? name = some c ∧
        (l.window.window ≤ Span.longest → l.nextSweep ≤ now → now < c.resetsAt) := by
  cases hends : now.add? l.window.window with
  | none =>
    rw [attempt_eq_of_out_of_range key hends] at h
    split at h
    · rename_i hlong
      exact Or.inr ⟨h, fun hle => absurd hlong (Nat.not_lt.2 hle)⟩
    · obtain ⟨hkept, hswept⟩ := get?_sweepIfDue h
      exact Or.inr ⟨hkept, fun _ => hswept⟩
  | some ends =>
    rw [attempt_eq key hends] at h
    rcases get?_countAttempt (lt_add? (Int.natCast_pos.2 hpos) hends) h with ⟨hname, hcharged⟩ | hkept
    · rw [sweepIfDue_window] at hname
      exact Or.inl ⟨hname, hcharged⟩
    · obtain ⟨hkept, hswept⟩ := get?_sweepIfDue hkept
      exact Or.inr ⟨hkept, fun _ => hswept⟩

/-- Every counter is filed under a key of the limiter. -/
def Named (l : Limiter) : Prop := ∀ name c, l.counters.get? name = some c → ∃ key, name = l.window.key key

lemma limiterRun_named (hpos : 0 < w.normalized.window) (start : Instant)
    (steps : List (Instant × LimiterStep)) :
    Named (limiterRun (Limiter.start w start) steps) := by
  induction steps with
  | nil => exact fun name c hc => by cases hc
  | cons last earlier ih =>
    obtain ⟨now, step⟩ := last
    have hwindow : (limiterRun (Limiter.start w start) earlier).window = w.normalized :=
      limiterRun_window _ earlier
    intro name c hc
    rw [limiterRun, takeLimiterStep_window]
    cases step with
    | attempt key =>
      rcases get?_attempt (by rw [hwindow]; exact hpos) hc with ⟨hname, _⟩ | ⟨hkept, _⟩
      · exact ⟨key, hname⟩
      · exact ih name c hkept
    | purge => exact ih name c (get?_sweep.1 hc).1

/-- The next sweep is due, or it is a window after a moment when every counter had time left. -/
def Scheduled (l : Limiter) (readings : List Instant) (now : Instant) : Prop :=
  l.nextSweep ≤ now ∨ ∃ s ∈ readings, s.add? l.window.window = some l.nextSweep ∧
    ∀ name c, l.counters.get? name = some c → s < c.resetsAt

lemma scheduled_later (h : Scheduled l readings now) (hle : now ≤ t) : Scheduled l readings t :=
  h.imp_left fun hdue => instant_le_trans hdue hle

lemma scheduled_purge (h : Scheduled l readings now) : Scheduled (l.sweep now) (now :: readings) now := by
  refine h.imp_right ?_
  rintro ⟨s, hs, hnext, hleft⟩
  exact ⟨s, List.mem_cons_of_mem now hs, hnext, fun name c hc => hleft name c (get?_sweep.1 hc).1⟩

lemma scheduled_attempt (hpos : 0 < l.window.window) (hreadings : ∀ r ∈ readings, r ≤ now)
    (h : Scheduled l readings now) (key : String) :
    Scheduled (l.attempt now key).2 (now :: readings) now := by
  have hwindow := attempt_window l now key
  by_cases hdue : l.nextSweep ≤ now
  · cases hends : now.add? l.window.window with
    | none =>
      -- without an end of a window to go by, the sweep stays due
      refine Or.inl ?_
      rw [attempt_eq_of_out_of_range key hends]
      split
      · exact hdue
      · rw [nextSweep_sweepIfDue]
        exact hdue
    | some ends =>
      have hshort := le_longest_of_add? hends
      refine Or.inr ⟨now, List.mem_cons_self, ?_, fun name c hc => ?_⟩
      · rw [hwindow, hends, attempt_eq key hends]
        exact congrArg some (if_pos hdue).symm
      · rcases get?_attempt hpos hc with ⟨_, hcharged⟩ | ⟨_, hswept⟩
        · exact hcharged
        · exact hswept hshort hdue
  · obtain ⟨s, hs, hnext, hleft⟩ := h.resolve_left hdue
    have hkept : (l.attempt now key).2.nextSweep = l.nextSweep := by
      cases hends : now.add? l.window.window with
      | none =>
        rw [attempt_eq_of_out_of_range key hends]
        split
        · rfl
        · exact nextSweep_sweepIfDue l now
      | some ends =>
        rw [attempt_eq key hends]
        exact if_neg hdue
    refine Or.inr ⟨s, List.mem_cons_of_mem now hs, by rw [hwindow, hkept]; exact hnext, fun name c hc => ?_⟩
    rcases get?_attempt hpos hc with ⟨_, hcharged⟩ | ⟨hold, _⟩
    · exact instant_lt_of_le_of_lt (hreadings s hs) hcharged
    · exact hleft name c hold

lemma limiterRun_scheduled (hpos : 0 < w.normalized.window)
    (hclock : Forward (t :: (steps.map Prod.fst ++ [start]))) :
    Scheduled (limiterRun (Limiter.start w start) steps) (steps.map Prod.fst) t := by
  induction steps generalizing t with
  | nil => exact Or.inl ((List.pairwise_cons.1 hclock).1 start List.mem_cons_self)
  | cons last earlier ih =>
    obtain ⟨now, step⟩ := last
    obtain ⟨hlater, hearlier⟩ := List.pairwise_cons.1 hclock
    have hwindow : (limiterRun (Limiter.start w start) earlier).window = w.normalized :=
      limiterRun_window _ earlier
    refine scheduled_later ?_ (hlater now List.mem_cons_self)
    cases step with
    | attempt key =>
      refine scheduled_attempt (by rw [hwindow]; exact hpos) (fun r hr => ?_) (ih hearlier) key
      exact (List.pairwise_cons.1 hearlier).1 r (List.mem_append_left _ hr)
    | purge => exact scheduled_purge (ih hearlier)

/-- A counter shows the current window of a key, as the reference has it for the attempts of a run. -/
structure Shows (w : FixedWindow) (steps : List (Instant × LimiterStep)) (name : String) (c : Counter)
    (key : String) (o : OpenWindow) : Prop where
  named : name = w.normalized.key key
  current : windowOf? w.normalized.window (countedOn w.normalized.window key steps) = some o
  counted : o.attempts = c.count
  ends : o.opened.add? w.normalized.window = some c.resetsAt

variable {o : OpenWindow}

lemma limiterRun_shows (hclock : Forward (t :: steps.map Prod.fst))
    (hc : (limiterRun (Limiter.start w start) steps).counters.get? name = some c) :
    ∃ key o, Shows w steps name c key o := by
  have hwindow : (limiterRun (Limiter.start w start) steps).window = w.normalized := limiterRun_window _ steps
  obtain ⟨key, rfl⟩ := limiterRun_named (Nat.pos_of_ne_zero (normalized_nonzero w).2) start steps name c hc
  obtain ⟨o, ho, hcount, hends⟩ := (limiterRun_mirrors_counted w start steps t key hclock).counted c hc
  rw [hwindow] at hends
  exact ⟨key, o, by rw [hwindow], ho, hcount, hends⟩

lemma attempts_le_length {times : List Instant} (h : windowOf? window times = some o) :
    o.attempts ≤ times.length := by
  induction times generalizing o with
  | nil => cases h
  | cons t earlier ih =>
    rw [windowOf?] at h
    cases h
    cases hbefore : windowOf? window earlier with
    | none => exact Nat.succ_le_succ (Nat.zero_le _)
    | some before =>
      rw [chargeWindow]
      split
      · exact Nat.succ_le_succ (Nat.zero_le _)
      · exact Nat.succ_le_succ (ih hbefore)

/-- No counter shows more attempts than have been made on its key. -/
theorem count_le_attempts (w : FixedWindow) (start t : Instant) (steps : List (Instant × LimiterStep))
    (hclock : Forward (t :: steps.map Prod.fst)) :
    ∀ name c, (limiterRun (Limiter.start w start) steps).counters.get? name = some c →
      ∃ key, name = w.normalized.key key ∧ c.count ≤ (attemptsOn key steps).length := by
  intro name c hc
  obtain ⟨key, o, hshows⟩ := limiterRun_shows hclock hc
  refine ⟨key, hshows.named, ?_⟩
  rw [← hshows.counted]
  exact Nat.le_trans (attempts_le_length hshows.current) (List.length_filter_le _ _)

lemma opened_mem_of_shows (h : Shows w steps name c key o) : o.opened ∈ attemptsOn key steps :=
  List.mem_of_mem_filter (opened_mem h.current)

/-- A window that ended at an instant was opened less than two windows ago: at one of the readings it had
time left, and since that reading no more than a window has passed. -/
def Recent (window : Span) (readings : List Instant) (now resetsAt : Instant) : Prop :=
  ∃ s ∈ readings, s < resetsAt ∧ (s = now ∨ ∃ ends, s.add? window = some ends ∧ now < ends)

lemma recent_of_attempt (hpos : 0 < l.window.window) (h : Scheduled l readings now)
    (hshort : ∀ name c, l.counters.get? name = some c → l.window.window ≤ Span.longest)
    (hc : (l.attempt now key).2.counters.get? name = some c) :
    Recent l.window.window (now :: readings) now c.resetsAt := by
  rcases get?_attempt hpos hc with ⟨_, hcharged⟩ | ⟨hold, hswept⟩
  · exact ⟨now, List.mem_cons_self, hcharged, Or.inl rfl⟩
  · by_cases hdue : l.nextSweep ≤ now
    · exact ⟨now, List.mem_cons_self, hswept (hshort name c hold) hdue, Or.inl rfl⟩
    · obtain ⟨s, hs, hnext, hleft⟩ := h.resolve_left hdue
      exact ⟨s, List.mem_cons_of_mem now hs, hleft name c hold, Or.inr ⟨_, hnext, instant_not_le.1 hdue⟩⟩

lemma opened_recently {resetsAt : Instant} (hordinary : ∀ r ∈ readings, r.leap = false)
    (hnow : now.leap = false) (hopened : opened.leap = false) (hends : opened.add? window = some resetsAt)
    (h : Recent window readings now resetsAt) : now.nanos - 2 * window < opened.nanos := by
  obtain ⟨s, hs, hlt, hpassed⟩ := h
  obtain ⟨hnanos, hleap⟩ := add?_ordinary hopened hends
  rw [Instant.lt_iff_nanos_lt (hordinary s hs) hleap] at hlt
  rcases hpassed with rfl | ⟨ends, hsends, hbefore⟩
  · omega
  · obtain ⟨hsnanos, hsleap⟩ := add?_ordinary (hordinary s hs) hsends
    rw [Instant.lt_iff_nanos_lt hnow hsleap] at hbefore
    omega

lemma limiterRun_recent (hclock : Forward (t :: (steps.map Prod.fst ++ [start])))
    (hc : (limiterRun (Limiter.start w start) ((t, .attempt key) :: steps)).counters.get? name = some c) :
    Recent w.normalized.window (t :: steps.map Prod.fst) t c.resetsAt := by
  have hpos := Nat.pos_of_ne_zero (normalized_nonzero w).2
  have hforward : Forward (t :: steps.map Prod.fst) :=
    hclock.sublist ((List.sublist_append_left _ _).cons_cons t)
  have hwindow : (limiterRun (Limiter.start w start) steps).window = w.normalized := limiterRun_window _ steps
  rw [← hwindow] at hpos ⊢
  refine recent_of_attempt hpos (limiterRun_scheduled (by rw [← hwindow]; exact hpos) hclock)
    (fun name c hold => ?_) hc
  obtain ⟨_, _, hshows⟩ := limiterRun_shows hforward hold
  rw [hwindow]
  exact le_longest_of_add? hshows.ends

lemma opened_recently_of_shows {history : List (Instant × LimiterStep)}
    (hordinary : ∀ r ∈ history.map Prod.fst, r.leap = false) (ht : t.leap = false)
    (hshows : Shows w history name c key o)
    (h : Recent w.normalized.window (history.map Prod.fst) t c.resetsAt) :
    t.nanos - 2 * w.normalized.window < o.opened.nanos :=
  opened_recently hordinary ht
    (hordinary _ (attemptsOn_subset key history _ (opened_mem_of_shows hshows))) hshows.ends h

/-- The keys with an attempt after a moment, told in nanoseconds. -/
def keysAfter (moment : Int) : List (Instant × LimiterStep) → List String
  | [] => []
  | (now, .attempt key) :: earlier =>
    if moment < now.nanos then key :: keysAfter moment earlier else keysAfter moment earlier
  | (_, .purge) :: earlier => keysAfter moment earlier

lemma mem_keysAfter {moment : Int} (hmem : now ∈ attemptsOn key steps) (hlater : moment < now.nanos) :
    key ∈ keysAfter moment steps := by
  induction steps with
  | nil => exact absurd hmem List.not_mem_nil
  | cons last earlier ih =>
    obtain ⟨r, step⟩ := last
    cases step with
    | attempt key' =>
      have hrest : now ∈ attemptsOn key earlier → key ∈ keysAfter moment ((r, .attempt key') :: earlier) := by
        intro hmem
        rw [keysAfter]
        split
        · exact List.mem_cons_of_mem key' (ih hmem)
        · exact ih hmem
      rw [attemptsOn] at hmem
      split at hmem
      · rename_i hkey
        rcases List.mem_cons.1 hmem with rfl | hmem
        · rw [keysAfter, if_pos hlater, hkey]
          exact List.mem_cons_self
        · exact hrest hmem
      · exact hrest hmem
    | purge => exact ih hmem

lemma size_le_of_names {keys : List String}
    (h : ∀ name c, l.counters.get? name = some c → ∃ key ∈ keys, name = l.window.key key) :
    l.size ≤ keys.dedup.length := by
  have hsubset : l.counters.entries.map Prod.fst ⊆ keys.dedup.map l.window.key := by
    intro name hname
    obtain ⟨entry, hentry, rfl⟩ := List.mem_map.1 hname
    obtain ⟨key, hkey, hnamed⟩ := h entry.1 entry.2 (Table.get?_eq_some_iff.2 hentry)
    rw [hnamed]
    exact List.mem_map_of_mem (List.mem_dedup.2 hkey)
  have hle := l.counters.nodup.length_le_of_subset hsubset
  rw [List.length_map, List.length_map] at hle
  exact hle

lemma purge_count (l : Limiter) (now : Instant) :
    (l.purge now).1 = (l.counters.entries.filter fun e => e.2.resetsAt ≤ now).length := by
  have hsplit := List.length_eq_length_filter_add (l := l.counters.entries) fun e =>
    decide (now < e.2.resetsAt)
  have hended : ∀ e : String × Counter, (!decide (now < e.2.resetsAt)) = decide (e.2.resetsAt ≤ now) := by
    intro e
    rw [← decide_not]
    exact decide_eq_decide.2 instant_not_lt
  simp only [hended] at hsplit
  exact Nat.sub_eq_of_eq_add (hsplit.trans (Nat.add_comm _ _))

/-- Right after an attempt every counter shows the current window of a key, and that was opened less than
two windows ago; so there are no more counters than keys with an attempt since. A purge takes out the
counters of the windows that have ended, tells how many these were, and changes nothing else. -/
theorem counters_recent (w : FixedWindow) (start t : Instant) (steps : List (Instant × LimiterStep))
    (key : String) (hclock : Forward (t :: (steps.map Prod.fst ++ [start]))) :
    let window := w.normalized.window
    let history := (t, LimiterStep.attempt key) :: steps
    let after := limiterRun (Limiter.start w start) history
    (∀ name c, after.counters.get? name = some c → ∃ key' o, Shows w history name c key' o ∧
        Recent window (history.map Prod.fst) t c.resetsAt ∧
        ((∀ r ∈ history.map Prod.fst, r.leap = false) → t.nanos - 2 * window < o.opened.nanos)) ∧
      ((∀ r ∈ history.map Prod.fst, r.leap = false) →
        after.size ≤ (keysAfter (t.nanos - 2 * window) history).dedup.length) ∧
      ∀ (l : Limiter) (now : Instant),
        (l.purge now).1 = (l.counters.entries.filter fun e => e.2.resetsAt ≤ now).length ∧
          (∀ name c, (l.purge now).2.counters.get? name = some c ↔
            l.counters.get? name = some c ∧ ¬ c.resetsAt ≤ now) ∧
          (l.purge now).2.window = l.window ∧ (l.purge now).2.nextSweep = l.nextSweep := by
  intro window history after
  have hforward : Forward (t :: steps.map Prod.fst) :=
    hclock.sublist ((List.sublist_append_left _ _).cons_cons t)
  have hhistory : Forward (t :: history.map Prod.fst) := List.pairwise_cons.2
    ⟨List.forall_mem_cons.2 ⟨instant_le_refl t, (List.pairwise_cons.1 hforward).1⟩, hforward⟩
  have hwindow : after.window = w.normalized := limiterRun_window _ history
  refine ⟨fun name c hc => ?_, fun hordinary => ?_,
    fun l now => ⟨purge_count l now, fun name c => ?_, rfl, rfl⟩⟩
  · obtain ⟨key', o, hshows⟩ := limiterRun_shows hhistory hc
    have hrecent := limiterRun_recent hclock hc
    exact ⟨key', o, hshows, hrecent, fun hordinary =>
      opened_recently_of_shows hordinary (hordinary t List.mem_cons_self) hshows hrecent⟩
  · refine size_le_of_names fun name c hc => ?_
    obtain ⟨key', o, hshows⟩ := limiterRun_shows hhistory hc
    have hlately :=
      opened_recently_of_shows hordinary (hordinary t List.mem_cons_self) hshows (limiterRun_recent hclock hc)
    exact ⟨key', mem_keysAfter (opened_mem_of_shows hshows) hlately, by rw [hwindow]; exact hshows.named⟩
  · rw [instant_not_le]
    exact get?_sweep

/-- Attempts on three keys. The last of them comes with a sweep, which takes out the counter of the first. -/
def staggeredSteps : List (Instant × LimiterStep) :=
  [(atSecond 75, .attempt "c"), (atSecond 20, .attempt "b"), (atSecond 10, .attempt "a")]

/-- The window of the second key has been over for most of a minute, but the sweep that takes out its
counter is not yet due. -/
theorem counters_recent_staggered :
    let history := (atSecond 130, LimiterStep.attempt "d") :: staggeredSteps
    let after := limiterRun (Limiter.start pairPerMinute .epoch) history
    Forward (atSecond 130 :: (staggeredSteps.map Prod.fst ++ [.epoch])) ∧ after.size = 3 ∧
      after.size ≤
        (keysAfter ((atSecond 130).nanos - 2 * pairPerMinute.normalized.window) history).dedup.length ∧
      keysAfter ((atSecond 130).nanos - 2 * pairPerMinute.normalized.window) history = ["d", "c", "b"] := by
  intro history after
  have hclock : Forward (atSecond 130 :: (staggeredSteps.map Prod.fst ++ [.epoch])) := by decide
  obtain ⟨_, hsize, _⟩ := counters_recent pairPerMinute .epoch (atSecond 130) staggeredSteps "d" hclock
  exact ⟨hclock, by decide +kernel, hsize (by decide), by decide +kernel⟩

end Gatehouse.Proofs
