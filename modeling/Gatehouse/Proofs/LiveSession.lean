import Gatehouse.Proofs.ServiceCalls

/-!
# Live sessions

A session is live as long as the store keeps it, its end has not passed and neither has the hard limit. These
are the sessions that a look-up finds, and nobody is let in with any other.
-/

namespace Gatehouse.Proofs
open SessionPolicy Service

variable {p : SessionPolicy} {w w' : World} {id : String} {s : Session}

/-- A session that a look-up under an identifier answers with. -/
structure LiveSession (p : SessionPolicy) (w : World) (id : String) (s : Session) : Prop where
  kept : ∃ evictAt, w.sessions.get? id = some ⟨s, evictAt⟩ ∧ w.now < evictAt
  running : w.now ≤ s.expiresAt
  young : p.pastMaxAge? s w.now = some false

lemma get_of_liveSession (hid : Text.isBlankText id = false) (h : LiveSession p w id s) :
    w.perform (p.get id).run = (some (.ok s), w) := by
  obtain ⟨⟨evictAt, hget, hlt⟩, hend, hyoung⟩ := h
  have hexpired : s.isExpired w.now = false := decide_eq_false (instant_not_lt.2 hend)
  simp only [perform_get, hid, hget, if_pos hlt, hyoung, hexpired, Bool.or_false,
    Bool.false_eq_true, if_false]

lemma liveSession_of_get {found : Option (Except SessionError Session)}
    (h : w.perform (p.get id).run = (found, w')) (hok : found = some (.ok s)) :
    LiveSession p w id s ∧ w' = w := by
  rw [perform_get] at h
  split at h
  · cases h
    cases hok
  cases hget : w.sessions.get? id with
  | none =>
    rw [hget] at h
    cases h
    cases hok
  | some e =>
    rw [hget] at h
    simp only at h
    split at h
    · rename_i hkept
      cases hpast : p.pastMaxAge? e.session w.now with
      | none =>
        rw [hpast] at h
        cases h
        cases hok
      | some past =>
        rw [hpast] at h
        simp only at h
        split at h
        · cases h
          cases hok
        · rename_i hlive
          rw [Bool.or_eq_true, not_or] at hlive
          cases h
          cases hok
          refine ⟨⟨⟨e.evictAt, hget, hkept⟩, ?_, ?_⟩, rfl⟩
          · exact instant_not_lt.1 fun hlt => hlive.2 (decide_eq_true hlt)
          · rw [hpast, Bool.eq_false_iff.2 hlive.1]
    · cases h
      cases hok

/-- Whoever must not act for a live session is turned away, and nothing comes of it. -/
lemma authenticate_of_not_verified {sv : Service} (hid : Text.isBlankText id = false)
    (hlive : LiveSession sv.policy w id s) {m : Http.Method} {csrf : Option String}
    (hverify : ¬ Csrf.verify m csrf s.csrfToken = true) :
    w.perform (sv.authenticateSession id m csrf).run = (some (.error .notAllowed), w) := by
  rw [perform_authenticateSession, get_of_liveSession hid hlive]
  exact if_neg hverify

/-- A request is let in with a live session that it may act for, and as the user of that session. -/
lemma liveSession_of_authenticate {sv : Service} {m : Http.Method} {csrf : Option String} {a : SessionAuth}
    (h : (w.perform (sv.authenticateSession id m csrf).run).1 = some (.ok a)) :
    ∃ s, LiveSession sv.policy w id s ∧ Csrf.verify m csrf s.csrfToken = true ∧
      a.principal = ⟨s.userId, s.role⟩ := by
  rw [perform_authenticateSession] at h
  cases hget : w.perform (sv.policy.get id).run with
  | mk found w' =>
    rw [hget] at h
    cases found with
    | none => cases h
    | some found =>
      cases found with
      | error e => cases h
      | ok s =>
        obtain ⟨hlive, rfl⟩ := liveSession_of_get hget rfl
        simp only at h
        split at h
        · rename_i hverify
          refine ⟨s, hlive, hverify, ?_⟩
          rcases refresh_cases sv.policy w' s with hrun | ⟨_, hrun⟩ | hrun | ⟨_, _, _, _, _, hrun⟩
          · rw [hrun] at h
            cases h
          · rw [hrun] at h
            cases h
          · rw [hrun] at h
            cases h
            rfl
          · rw [hrun] at h
            cases h
            rfl
        · cases h

end Gatehouse.Proofs
