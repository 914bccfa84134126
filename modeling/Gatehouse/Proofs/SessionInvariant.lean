import Gatehouse.Proofs.SessionCalls

/-!
# The invariant of the session store

A run is any sequence of operations on sessions, each at a clock reading of its own; readings may jump
forward and backward, and a refresh may be handed any session at all. This file shows that every entry of
the store keeps the bounds of the policy and is evicted as late as its session ends, and that whatever a run
hands out as the state of the store keeps the same bounds.
-/

namespace Gatehouse.Proofs
open SessionPolicy

inductive SessionStep where
  | create (userId role : String)
  | get (id : String)
  | refresh (s : Session)
  | delete (id : String)
  | purge
deriving DecidableEq

inductive SessionReply where
  | created (s : Session)
  | found (s : Session)
  | refreshed (s : Session) (written : Bool)
  | deleted
  | purged (count : Nat)
deriving DecidableEq

/-- An answer to a step. No answer means that time arithmetic left the range of instants. -/
abbrev SessionAnswer := Option (Except SessionError SessionReply)

def replying {ε α β : Type} (reply : α → β) (r : Option (Except ε α) × World) :
    Option (Except ε β) × World :=
  (r.1.map (Except.map reply), r.2)

def takeStep (p : SessionPolicy) (w : World) : SessionStep → SessionAnswer × World
  | .create userId role => replying .created (w.perform (p.create userId role).run)
  | .get id => replying .found (w.perform (p.get id).run)
  | .refresh s => replying (fun r => .refreshed r.1 r.2) (w.perform (p.refresh s).run)
  | .delete id => replying (fun _ => .deleted) (w.perform (SessionPolicy.delete id).run)
  | .purge => (some (.ok (.purged w.purgeSessions.1)), w.purgeSessions.2)

structure SessionEvent where
  moment : Instant
  step : SessionStep
  answer : SessionAnswer

/-- Runs steps at their clock readings, the last one first in the list. What happened is told in that order
too. -/
def sessionRun (p : SessionPolicy) (w : World) : List (Instant × SessionStep) → World × List SessionEvent
  | [] => (w, [])
  | (t, step) :: earlier =>
    let before := sessionRun p w earlier
    let after := takeStep p { before.1 with now := t } step
    (after.2, ⟨t, step, after.1⟩ :: before.2)

/-- The session that an answer shows to be in the store. -/
def shown? : SessionAnswer → Option Session
  | some (.ok (.created s)) => some s
  | some (.ok (.found s)) => some s
  | some (.ok (.refreshed s true)) => some s
  | _ => none

/-- The bounds of a policy on the end of a session. -/
structure Bounded (p : SessionPolicy) (s : Session) : Prop where
  capped : p.maxAge ≠ 0 → ∃ limit, s.createdAt.add? (reckoned p.maxAge) = some limit ∧ s.expiresAt ≤ limit
  refreshed_le : s.lastRefreshedAt ≤ s.expiresAt
  sliding : ∃ latest, s.lastRefreshedAt.add? (reckoned p.ttl) = some latest ∧ s.expiresAt ≤ latest

/-- When a store lets go of a session: it keeps one from its last refresh on for as long as the session then
had left, and for a second at least. -/
def evictionOf? (s : Session) : Option Instant :=
  s.lastRefreshedAt.add? (max (s.expiresAt.since s.lastRefreshedAt) 1000000000)

/-- An entry in its place. -/
structure Filed (p : SessionPolicy) (id : String) (e : StoredSession) : Prop where
  own : e.session.id = id
  bounded : Bounded p e.session
  evicted : evictionOf? e.session = some e.evictAt

def StoreFiled (p : SessionPolicy) (st : SessionStore) : Prop := ∀ id e, st.get? id = some e → Filed p id e

lemma reckoned_nonneg (d : Span) : 0 ≤ reckoned d := by
  unfold SessionPolicy.reckoned
  split <;> exact Int.natCast_nonneg _

lemma bounded_of_cappedExpiry {p : SessionPolicy} {s : Session} {now : Instant}
    (hexpiry : p.cappedExpiry? s.createdAt now = some s.expiresAt) (hlast : s.lastRefreshedAt = now)
    (hlimit : p.maxAge ≠ 0 → ∃ limit, s.createdAt.add? (reckoned p.maxAge) = some limit ∧ now ≤ limit) :
    Bounded p s := by
  obtain ⟨sliding, hsliding, hend⟩ := cappedExpiry?_eq_some hexpiry
  have hle : s.expiresAt ≤ sliding := cappedExpiry?_le hexpiry hsliding
  have hnow : now ≤ sliding := le_add? (reckoned_nonneg p.ttl) hsliding
  subst hlast
  by_cases hmax : p.maxAge = 0
  · rw [if_pos hmax] at hend
    refine ⟨fun h => absurd hmax h, ?_, sliding, hsliding, hle⟩
    rw [hend]
    exact hnow
  · rw [if_neg hmax] at hend
    obtain ⟨limit, hadd, hend⟩ := hend
    obtain ⟨limit', hadd', hbefore⟩ := hlimit hmax
    obtain rfl : limit = limit' := Option.some.inj (hadd.symm.trans hadd')
    refine ⟨fun _ => ⟨limit, hadd, ?_⟩, ?_, sliding, hsliding, hle⟩
    · rw [hend]
      exact earlier_le_right sliding limit
    · rw [hend]
      exact le_earlier hnow hbefore

lemma evictionOf?_of_add? {s : Session} {now evictAt : Instant} (hlast : s.lastRefreshedAt = now)
    (h : now.add? (storeTtl s now) = some evictAt) : evictionOf? s = some evictAt := by
  rw [storeTtl_eq] at h
  rw [evictionOf?, hlast]
  exact h

/-- A session just created is within the bounds, and there is no other way out but a breakdown. -/
lemma create_cases (p : SessionPolicy) (w : World) (userId role : String) :
    w.perform (p.create userId role).run = (none, drawTokens w) ∨
      ∃ expiresAt evictAt, p.cappedExpiry? w.now w.now = some expiresAt ∧
        Bounded p (newSession p w userId role expiresAt) ∧
        evictionOf? (newSession p w userId role expiresAt) = some evictAt ∧
        w.perform (p.create userId role).run =
          (some (.ok (newSession p w userId role expiresAt)),
            fileSession (drawTokens w) (newSession p w userId role expiresAt) evictAt) := by
  rw [perform_create]
  cases hexpiry : p.cappedExpiry? w.now w.now with
  | none => exact Or.inl rfl
  | some expiresAt =>
    simp only
    cases hevict : w.now.add? (storeTtl (newSession p w userId role expiresAt) w.now) with
    | none => exact Or.inl rfl
    | some evictAt =>
      refine Or.inr ⟨expiresAt, evictAt, rfl, bounded_of_cappedExpiry hexpiry rfl fun hmax => ?_,
        evictionOf?_of_add? rfl hevict, rfl⟩
      obtain ⟨_, _, hend⟩ := cappedExpiry?_eq_some hexpiry
      rw [if_neg hmax] at hend
      obtain ⟨limit, hlimit, _⟩ := hend
      exact ⟨limit, hlimit, le_add? (reckoned_nonneg p.maxAge) hlimit⟩

/-- A refresh breaks down, ends the session, leaves it alone, or writes it anew within the bounds. -/
lemma refresh_cases (p : SessionPolicy) (w : World) (s : Session) :
    w.perform (p.refresh s).run = (none, w) ∨
      p.pastMaxAge? s w.now = some true ∧
        w.perform (p.refresh s).run = (some (.error .notFound), dropSession w s.id) ∨
      w.perform (p.refresh s).run = (some (.ok (s, false)), w) ∨
      ∃ expiresAt evictAt, p.cappedExpiry? s.createdAt w.now = some expiresAt ∧
        Bounded p { s with expiresAt, lastRefreshedAt := w.now } ∧
        evictionOf? { s with expiresAt, lastRefreshedAt := w.now } = some evictAt ∧
        w.perform (p.refresh s).run =
          (some (.ok ({ s with expiresAt, lastRefreshedAt := w.now }, true)),
            fileSession w { s with expiresAt, lastRefreshedAt := w.now } evictAt) := by
  rw [perform_refresh]
  cases hpast : p.pastMaxAge? s w.now with
  | none => exact Or.inl rfl
  | some past =>
    cases past with
    | true => exact Or.inr (Or.inl ⟨rfl, rfl⟩)
    | false =>
      simp only
      cases hdue : p.refreshed? s w.now with
      | none => exact Or.inl rfl
      | some due =>
        cases due with
        | none => exact Or.inr (Or.inr (Or.inl rfl))
        | some s' =>
          obtain ⟨expiresAt, hexpiry, _, rfl⟩ := refreshed?_eq_some hdue
          simp only
          cases hevict : w.now.add? (storeTtl { s with expiresAt, lastRefreshedAt := w.now } w.now) with
          | none => exact Or.inl rfl
          | some evictAt =>
            refine Or.inr (Or.inr (Or.inr
              ⟨expiresAt, evictAt, hexpiry, ?_, evictionOf?_of_add? rfl hevict, rfl⟩))
            exact bounded_of_cappedExpiry hexpiry rfl (pastMaxAge?_eq_false hpast)

/-- What is written by a refresh ends later than before. -/
lemma refresh_later (p : SessionPolicy) (w : World) (s s' : Session)
    (h : (w.perform (p.refresh s).run).1 = some (.ok (s', true))) : s.expiresAt < s'.expiresAt := by
  rw [perform_refresh] at h
  split at h
  · cases h
  · cases h
  · split at h
    · cases h
    · cases h
    · rename_i hdue
      obtain ⟨expiresAt, _, hlater, rfl⟩ := refreshed?_eq_some hdue
      split at h
      · cases h
      · cases h
        exact hlater

lemma get_cases (p : SessionPolicy) (w : World) (id : String) :
    w.perform (p.get id).run = (none, w) ∨
      w.perform (p.get id).run = (some (.error .notFound), w) ∨
      (∃ id', w.perform (p.get id).run = (some (.error .notFound), dropSession w id')) ∨
      ∃ e, w.sessions.get? id = some e ∧ w.perform (p.get id).run = (some (.ok e.session), w) := by
  rw [perform_get]
  split
  · exact Or.inr (Or.inl rfl)
  cases w.sessions.get? id with
  | none => exact Or.inr (Or.inl rfl)
  | some e =>
    simp only
    split
    · cases p.pastMaxAge? e.session w.now with
      | none => exact Or.inl rfl
      | some past =>
        simp only
        split
        · exact Or.inr (Or.inr (Or.inl ⟨e.session.id, rfl⟩))
        · exact Or.inr (Or.inr (Or.inr ⟨e, rfl, rfl⟩))
    · exact Or.inr (Or.inr (Or.inl ⟨id, rfl⟩))

lemma storeFiled_insert {p : SessionPolicy} {st : SessionStore} {s : Session} {evictAt : Instant}
    (hst : StoreFiled p st) (hs : Bounded p s) (hevict : evictionOf? s = some evictAt) :
    StoreFiled p (st.insert s.id ⟨s, evictAt⟩) := by
  intro id e he
  rw [Table.get?_insert] at he
  split at he
  · rename_i hid
    cases he
    exact ⟨hid.symm, hs, hevict⟩
  · exact hst id e he

lemma storeFiled_erase {p : SessionPolicy} {st : SessionStore} (hst : StoreFiled p st) (id : String) :
    StoreFiled p (st.erase id) := by
  intro id' e he
  rw [Table.get?_erase] at he
  split at he
  · cases he
  · exact hst id' e he

lemma storeFiled_purge {p : SessionPolicy} {st : SessionStore} (hst : StoreFiled p st) (now : Instant) :
    StoreFiled p (st.purgeExpired now) := by
  intro id e he
  rw [SessionStore.get?_purgeExpired, Option.filter_eq_some_iff] at he
  exact hst id e he.1

lemma takeStep_filed {p : SessionPolicy} {w : World} (hw : StoreFiled p w.sessions) (step : SessionStep) :
    StoreFiled p (takeStep p w step).2.sessions ∧
      ∀ s, shown? (takeStep p w step).1 = some s → Bounded p s := by
  cases step with
  | create userId role =>
    simp only [takeStep, replying]
    rcases create_cases p w userId role with hrun | ⟨expiresAt, evictAt, _, hbounded, hevict, hrun⟩
    · rw [hrun]
      exact ⟨hw, fun s hs => by cases hs⟩
    · rw [hrun]
      refine ⟨storeFiled_insert hw hbounded hevict, fun s hs => ?_⟩
      cases hs
      exact hbounded
  | get id =>
    simp only [takeStep, replying]
    rcases get_cases p w id with hrun | hrun | ⟨id', hrun⟩ | ⟨e, he, hrun⟩
    · rw [hrun]
      exact ⟨hw, fun s hs => by cases hs⟩
    · rw [hrun]
      exact ⟨hw, fun s hs => by cases hs⟩
    · rw [hrun]
      exact ⟨storeFiled_erase hw id', fun s hs => by cases hs⟩
    · rw [hrun]
      refine ⟨hw, fun s hs => ?_⟩
      cases hs
      exact (hw id e he).bounded
  | refresh s =>
    simp only [takeStep, replying]
    rcases refresh_cases p w s with hrun | ⟨_, hrun⟩ | hrun | ⟨expiresAt, evictAt, _, hbounded, hevict, hrun⟩
    · rw [hrun]
      exact ⟨hw, fun s hs => by cases hs⟩
    · rw [hrun]
      exact ⟨storeFiled_erase hw s.id, fun s hs => by cases hs⟩
    · rw [hrun]
      exact ⟨hw, fun s hs => by cases hs⟩
    · rw [hrun]
      refine ⟨storeFiled_insert hw hbounded hevict, fun s hs => ?_⟩
      cases hs
      exact hbounded
  | delete id => exact ⟨storeFiled_erase hw id, fun s hs => by cases hs⟩
  | purge => exact ⟨storeFiled_purge hw w.now, fun s hs => by cases hs⟩

lemma sessionRun_filed {p : SessionPolicy} {w : World} (hw : StoreFiled p w.sessions)
    (steps : List (Instant × SessionStep)) :
    StoreFiled p (sessionRun p w steps).1.sessions ∧
      ∀ event ∈ (sessionRun p w steps).2, ∀ s, shown? event.answer = some s → Bounded p s := by
  induction steps with
  | nil => exact ⟨hw, fun event hevent => by cases hevent⟩
  | cons last earlier ih =>
    obtain ⟨hstore, hshown⟩ := ih
    obtain ⟨hstore', hshown'⟩ :=
      takeStep_filed (w := { (sessionRun p w earlier).1 with now := last.1 }) hstore last.2
    refine ⟨hstore', fun event hevent => ?_⟩
    rcases List.mem_cons.1 hevent with rfl | hearlier
    · exact hshown'
    · exact hshown event hearlier

/-- Outside of leap seconds a session goes from the store when it ends, or a second after its last refresh. -/
lemma evictionOf?_ordinary {s : Session} {evictAt : Instant} (hlast : s.lastRefreshedAt.leap = false)
    (hends : s.expiresAt.leap = false) (h : evictionOf? s = some evictAt) :
    evictAt.leap = false ∧
      evictAt.nanos = max s.expiresAt.nanos (s.lastRefreshedAt.nanos + 1000000000) := by
  obtain ⟨hnanos, hleap⟩ := add?_ordinary hlast h
  rw [Instant.since_of_not_leap hends hlast] at hnanos
  exact ⟨hleap, by omega⟩

/-- Whatever is done to an empty store of sessions, and whichever way the clock moves, its entries are in
their places and within the bounds of the policy, and so is every session that is shown to be in it. An
entry is kept for as long as its session had left at its last refresh, for a second at least; that is until
the session ends or later, unless a leap second lies in between. -/
theorem sessionRun_keeps_bounds (p : SessionPolicy) (w : World) (steps : List (Instant × SessionStep)) :
    (∀ id e, (sessionRun p { w with sessions := Table.empty } steps).1.sessions.get? id = some e →
      e.session.id = id ∧ Bounded p e.session ∧
        e.session.lastRefreshedAt.add?
          (max (e.session.expiresAt.since e.session.lastRefreshedAt) 1000000000) = some e.evictAt ∧
        (e.session.lastRefreshedAt.leap = false → e.session.expiresAt.leap = false →
          e.evictAt.leap = false ∧
            e.evictAt.nanos = max e.session.expiresAt.nanos (e.session.lastRefreshedAt.nanos + 1000000000) ∧
            e.session.expiresAt ≤ e.evictAt)) ∧
      ∀ event ∈ (sessionRun p { w with sessions := Table.empty } steps).2, ∀ s,
        shown? event.answer = some s → Bounded p s := by
  have hempty : StoreFiled p ({ w with sessions := Table.empty } : World).sessions :=
    fun id e he => by cases he
  obtain ⟨hstore, hshown⟩ := sessionRun_filed hempty steps
  refine ⟨fun id e he => ?_, hshown⟩
  have hfiled := hstore id e he
  refine ⟨hfiled.own, hfiled.bounded, hfiled.evicted, fun hlast hends => ?_⟩
  obtain ⟨hleap, hnanos⟩ := evictionOf?_ordinary hlast hends hfiled.evicted
  refine ⟨hleap, hnanos, ?_⟩
  rw [Instant.le_iff_nanos_le hends hleap]
  omega

/-- A session that was created within a leap second, and half a second of life. -/
def leapSession : Session where
  id := "ses_1"
  userId := "u"
  role := "r"
  csrfToken := "c"
  createdAt := ⟨1700049659100000000, true, by decide, by decide⟩
  lastRefreshedAt := ⟨1699920000000000000, false, by decide, by decide⟩
  expiresAt := ⟨1699920000000000000, false, by decide, by decide⟩

def briefPolicy : SessionPolicy where
  ttl := Span.ofSecs 172800
  maxAge := Span.ofMillis 500
  refreshBefore := 0
  idBytes := 32
  csrfBytes := 32

def refreshMoment : Instant := ⟨1700000000000000000, false, by decide, by decide⟩

def leapEntry : StoredSession where
  session := { leapSession with
    lastRefreshedAt := refreshMoment
    expiresAt := ⟨1700049659600000000, true, by decide, by decide⟩ }
  evictAt := ⟨1700049659600000000, false, by decide, by decide⟩

/-- An entry may go before its session ends: the end lies in a leap second, and the time until then does not
count that second. -/
theorem evictAt_before_expiresAt :
    ¬ ∀ (p : SessionPolicy) (w : World) (steps : List (Instant × SessionStep)) (id : String)
        (e : StoredSession),
        (sessionRun p { w with sessions := Table.empty } steps).1.sessions.get? id = some e →
          e.session.expiresAt ≤ e.evictAt := by
  intro h
  have hle : leapEntry.session.expiresAt ≤ leapEntry.evictAt :=
    h briefPolicy { now := .epoch, tokens := { text := fun _ _ => "" } }
      [(refreshMoment, .refresh leapSession)] "ses_1" leapEntry (by decide +kernel)
  exact absurd hle (by decide)

end Gatehouse.Proofs
