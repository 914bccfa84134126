import Gatehouse.Proofs.AttemptRun
import Gatehouse.Proofs.InstantOrder
import Gatehouse.Session.Lifecycle

/-!
# What session operations do to a world

One equation for every operation on sessions: the answer and the world it leaves, with every guard on the
way. Only the store of sessions and the tokens drawn ever change, and a breakdown leaves the store as it was.
-/

namespace Gatehouse.Proofs
open SessionPolicy

lemma pastMaxAge?_eq_false {p : SessionPolicy} {s : Session} {now : Instant}
    (h : p.pastMaxAge? s now = some false) (hmax : p.maxAge ≠ 0) :
    ∃ limit, s.createdAt.add? (reckoned p.maxAge) = some limit ∧ now ≤ limit := by
  unfold SessionPolicy.pastMaxAge? Session.exceedsMaxAge? at h
  rw [if_neg hmax] at h
  cases hlimit : s.createdAt.add? (reckoned p.maxAge) with
  | none =>
    rw [hlimit] at h
    cases h
  | some limit =>
    rw [hlimit] at h
    have hnot : decide (limit < now) = false := Option.some.inj h
    exact ⟨limit, rfl, instant_not_lt.1 (of_decide_eq_false hnot)⟩

lemma pastMaxAge?_of_le {p : SessionPolicy} {s : Session} {now : Instant}
    (h : p.maxAge ≠ 0 → ∃ limit, s.createdAt.add? (reckoned p.maxAge) = some limit ∧ now ≤ limit) :
    p.pastMaxAge? s now = some false := by
  unfold SessionPolicy.pastMaxAge? Session.exceedsMaxAge?
  by_cases hmax : p.maxAge = 0
  · rw [if_pos hmax]
  · obtain ⟨limit, hlimit, hle⟩ := h hmax
    rw [if_neg hmax, hlimit]
    exact congrArg some (decide_eq_false (instant_not_lt.2 hle))

lemma cappedExpiry?_eq_some {p : SessionPolicy} {createdAt now expiresAt : Instant}
    (h : p.cappedExpiry? createdAt now = some expiresAt) :
    ∃ sliding, now.add? (reckoned p.ttl) = some sliding ∧
      if p.maxAge = 0 then expiresAt = sliding
      else ∃ limit, createdAt.add? (reckoned p.maxAge) = some limit ∧ expiresAt = sliding.earlier limit := by
  unfold SessionPolicy.cappedExpiry? at h
  cases hsliding : now.add? (reckoned p.ttl) with
  | none =>
    rw [hsliding] at h
    cases h
  | some sliding =>
    rw [hsliding] at h
    refine ⟨sliding, rfl, ?_⟩
    by_cases hmax : p.maxAge = 0
    · rw [if_pos hmax]
      simp only [Option.bind_eq_bind, Option.bind_some, if_pos hmax] at h
      exact (Option.some.inj h).symm
    · rw [if_neg hmax]
      simp only [Option.bind_eq_bind, Option.bind_some, if_neg hmax] at h
      cases hlimit : createdAt.add? (reckoned p.maxAge) with
      | none =>
        rw [hlimit] at h
        cases h
      | some limit =>
        rw [hlimit] at h
        exact ⟨limit, rfl, (Option.some.inj h).symm⟩

lemma cappedExpiry?_of_add? {p : SessionPolicy} {createdAt now sliding : Instant}
    (hsliding : now.add? (reckoned p.ttl) = some sliding)
    (hcapped : p.maxAge ≠ 0 → ∃ limit, createdAt.add? (reckoned p.maxAge) = some limit) :
    ∃ expiresAt, p.cappedExpiry? createdAt now = some expiresAt := by
  unfold SessionPolicy.cappedExpiry?
  rw [hsliding]
  by_cases hmax : p.maxAge = 0
  · exact ⟨sliding, if_pos hmax⟩
  · obtain ⟨limit, hlimit⟩ := hcapped hmax
    rw [hlimit]
    exact ⟨sliding.earlier limit, if_neg hmax⟩

lemma cappedExpiry?_le {p : SessionPolicy} {createdAt now expiresAt sliding : Instant}
    (h : p.cappedExpiry? createdAt now = some expiresAt)
    (hsliding : now.add? (reckoned p.ttl) = some sliding) : expiresAt ≤ sliding := by
  obtain ⟨sliding', hsliding', hend⟩ := cappedExpiry?_eq_some h
  obtain rfl : sliding = sliding' := Option.some.inj (hsliding.symm.trans hsliding')
  by_cases hmax : p.maxAge = 0
  · rw [if_pos hmax] at hend
    rw [hend]
    exact instant_le_refl sliding
  · rw [if_neg hmax] at hend
    obtain ⟨limit, _, hend⟩ := hend
    rw [hend]
    exact earlier_le_left sliding limit

lemma cappedExpiry?_ordinary {p : SessionPolicy} {createdAt now expiresAt : Instant}
    (hcreated : createdAt.leap = false) (hnow : now.leap = false)
    (h : p.cappedExpiry? createdAt now = some expiresAt) : expiresAt.leap = false := by
  obtain ⟨sliding, hsliding, hend⟩ := cappedExpiry?_eq_some h
  have hordinary : sliding.leap = false := (add?_ordinary hnow hsliding).2
  by_cases hmax : p.maxAge = 0
  · rw [if_pos hmax] at hend
    rw [hend]
    exact hordinary
  · rw [if_neg hmax] at hend
    obtain ⟨limit, hlimit, hend⟩ := hend
    rw [hend]
    exact earlier_leap hordinary (add?_ordinary hcreated hlimit).2

lemma cappedExpiry?_of_refreshed? {p : SessionPolicy} {s : Session} {now : Instant}
    (h : p.refreshed? s now = none) : p.cappedExpiry? s.createdAt now = none := by
  unfold SessionPolicy.refreshed? at h
  split at h
  · cases h
  split at h
  · cases h
  cases hexpiry : p.cappedExpiry? s.createdAt now with
  | none => rfl
  | some expiresAt =>
    rw [hexpiry] at h
    cases h

lemma refreshed?_eq_some {p : SessionPolicy} {s s' : Session} {now : Instant}
    (h : p.refreshed? s now = some (some s')) :
    ∃ expiresAt, p.cappedExpiry? s.createdAt now = some expiresAt ∧ s.expiresAt < expiresAt ∧
      s' = { s with expiresAt, lastRefreshedAt := now } := by
  unfold SessionPolicy.refreshed? at h
  split at h
  · cases h
  split at h
  · cases h
  cases hexpiry : p.cappedExpiry? s.createdAt now with
  | none =>
    rw [hexpiry] at h
    cases h
  | some expiresAt =>
    rw [hexpiry] at h
    simp only [Option.bind_eq_bind, Option.bind_some] at h
    by_cases hle : expiresAt ≤ s.expiresAt
    · rw [if_pos hle] at h
      cases h
    · rw [if_neg hle] at h
      cases h
      exact ⟨expiresAt, rfl, instant_not_le.1 hle, rfl⟩

/-- The world once a session is filed until an instant. -/
def fileSession (w : World) (s : Session) (evictAt : Instant) : World :=
  { w with sessions := w.sessions.insert s.id ⟨s, evictAt⟩ }

def dropSession (w : World) (id : String) : World := { w with sessions := w.sessions.erase id }

/-- The world once the two tokens of a new session are drawn. -/
def drawTokens (w : World) : World := { w with tokens := { w.tokens with issued := w.tokens.issued + 2 } }

def newSession (p : SessionPolicy) (w : World) (userId role : String) (expiresAt : Instant) : Session where
  id := "ses_" ++ w.tokens.text w.tokens.issued (max p.idBytes minRandomBytes)
  userId := userId
  role := role
  csrfToken := w.tokens.text (w.tokens.issued + 1) (max p.csrfBytes minRandomBytes)
  createdAt := w.now
  lastRefreshedAt := w.now
  expiresAt := expiresAt

/-- The identifier that the next session will have. -/
def nextSessionId (p : SessionPolicy) (w : World) : String :=
  "ses_" ++ w.tokens.text w.tokens.issued (max p.idBytes minRandomBytes)

lemma newSession_id (p : SessionPolicy) (w : World) (userId role : String) (expiresAt : Instant) :
    (newSession p w userId role expiresAt).id = nextSessionId p w := rfl

lemma storeTtl_eq (s : Session) (now : Instant) :
    (storeTtl s now : Int) = max (s.expiresAt.since now) 1000000000 := by
  show ((max (s.expiresAt.since now).toNat 1000000000 : Nat) : Int) = _
  omega

lemma storeTtl_le_longest (s : Session) (now : Instant) : storeTtl s now ≤ Span.longest := by
  have hlt := since_lt s.expiresAt now
  refine Nat.max_le.2 ⟨?_, by decide⟩
  unfold Session.remaining Span.longest
  omega

lemma perform_persist (w : World) (s : Session) :
    w.perform (persist s w.now).run =
      match w.now.add? (storeTtl s w.now) with
      | none => (none, w)
      | some evictAt => (some (.ok ()), fileSession w s evictAt) := by
  have hspan : ¬ Span.longest < storeTtl s w.now := Nat.not_lt.2 (storeTtl_le_longest s w.now)
  rw [persist, perform_bind, perform_ask]
  simp only [World.answer, World.saveSession, SessionStore.save, if_neg hspan]
  cases w.now.add? (storeTtl s w.now) <;> rfl

lemma perform_delete (w : World) (id : String) :
    w.perform (SessionPolicy.delete id).run = (some (.ok ()), dropSession w id) := rfl

lemma perform_create (p : SessionPolicy) (w : World) (userId role : String) :
    w.perform (p.create userId role).run =
      match p.cappedExpiry? w.now w.now with
      | none => (none, drawTokens w)
      | some expiresAt =>
        let s := newSession p w userId role expiresAt
        match w.now.add? (storeTtl s w.now) with
        | none => (none, drawTokens w)
        | some evictAt => (some (.ok s), fileSession (drawTokens w) s evictAt) := by
  simp only [SessionPolicy.create, perform_bind, perform_ask, World.answer, Option.map_some,
    TokenSource.next, perform_orBreakdown]
  cases p.cappedExpiry? w.now w.now with
  | none => rfl
  | some expiresAt =>
    have hpersist := perform_persist (drawTokens w) (newSession p w userId role expiresAt)
    simp only [drawTokens, newSession] at hpersist ⊢
    simp only [Option.map_some]
    rw [hpersist]
    cases w.now.add? _ <;> rfl

lemma perform_get (p : SessionPolicy) (w : World) (id : String) :
    w.perform (p.get id).run =
      if Text.isBlankText id then (some (.error .notFound), w)
      else match w.sessions.get? id with
        | none => (some (.error .notFound), w)
        | some e =>
          if w.now < e.evictAt then
            match p.pastMaxAge? e.session w.now with
            | none => (none, w)
            | some past =>
              if past || e.session.isExpired w.now then (some (.error .notFound), dropSession w e.session.id)
              else (some (.ok e.session), w)
          else (some (.error .notFound), dropSession w id) := by
  unfold SessionPolicy.get
  cases Text.isBlankText id with
  | true => rfl
  | false =>
    simp only [Bool.false_eq_true, if_false, perform_bind, perform_ask, perform_orTell, World.answer,
      World.loadSession, SessionStore.load]
    cases w.sessions.get? id with
    | none => rfl
    | some e =>
      by_cases hkept : w.now < e.evictAt
      · simp only [if_pos hkept, Option.map_some, mapError_ok, perform_bind, perform_ask, World.answer,
          perform_orBreakdown]
        cases p.pastMaxAge? e.session w.now with
        | none => rfl
        | some past =>
          simp only [Option.map_some]
          cases past || e.session.isExpired w.now <;> rfl
      · simp only [if_neg hkept]
        rfl

lemma perform_refresh (p : SessionPolicy) (w : World) (s : Session) :
    w.perform (p.refresh s).run =
      match p.pastMaxAge? s w.now with
      | none => (none, w)
      | some true => (some (.error .notFound), dropSession w s.id)
      | some false =>
        match p.refreshed? s w.now with
        | none => (none, w)
        | some none => (some (.ok (s, false)), w)
        | some (some s') =>
          match w.now.add? (storeTtl s' w.now) with
          | none => (none, w)
          | some evictAt => (some (.ok (s', true)), fileSession w s' evictAt) := by
  simp only [SessionPolicy.refresh, perform_bind, perform_ask, World.answer, Option.map_some,
    perform_orBreakdown]
  cases p.pastMaxAge? s w.now with
  | none => rfl
  | some past =>
    cases past with
    | true => rfl
    | false =>
      simp only [Option.map_some, perform_bind, perform_orBreakdown, Bool.false_eq_true, if_false]
      cases p.refreshed? s w.now with
      | none => rfl
      | some due =>
        cases due with
        | none => rfl
        | some s' =>
          simp only [Option.map_some, perform_bind, perform_persist]
          cases w.now.add? (storeTtl s' w.now) <;> rfl

end Gatehouse.Proofs
