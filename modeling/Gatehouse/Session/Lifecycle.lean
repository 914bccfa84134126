import Gatehouse.Procedure
import Gatehouse.Session.Policy
import Gatehouse.Text.Blank

/-!
# The life of a session

A session is created, read, refreshed and deleted over a store under a policy. Reading and refreshing remove a
session that has outlived the policy. A refresh writes only if that moves the end of the session further.
-/

namespace Gatehouse

inductive SessionError where
  | notFound
  | store (fault : StoreFault)
deriving DecidableEq, Repr

def SessionError.message : SessionError → String
  | notFound => "session not found"
  | store fault => "session store error: " ++ fault.message

namespace SessionPolicy

open Attempt

/-- Keeps a session in the store until it ends. -/
def persist (s : Session) (now : Instant) : Attempt SessionError Unit := do
  orTell .store (← ask (.saveSession s (storeTtl s now)))

/-- Removes a session. It does not matter if the store refuses. -/
def discard (id : String) : Attempt SessionError Unit := do
  let _ ← ask (.deleteSession id)

def create (p : SessionPolicy) (userId role : String) : Attempt SessionError Session := do
  let now ← ask .now
  let id ← ask (.generate (max p.idBytes minRandomBytes))
  let csrfToken ← ask (.generate (max p.csrfBytes minRandomBytes))
  let expiresAt ← orBreakdown (p.cappedExpiry? now now)
  let session : Session :=
    { id := "ses_" ++ id, userId, role, csrfToken, createdAt := now, lastRefreshedAt := now, expiresAt }
  persist session now
  return session

def get (p : SessionPolicy) (id : String) : Attempt SessionError Session := do
  if Text.isBlankText id then throw .notFound
  let found ← orTell .store (← ask (.loadSession id))
  match found with
  | none => throw .notFound
  | some session =>
    let now ← ask .now
    let past ← orBreakdown (p.pastMaxAge? session now)
    if past || session.isExpired now then
      discard session.id
      throw .notFound
    return session

/-- The session that a refresh would write, unless there is no need or no room for one. -/
def refreshed? (p : SessionPolicy) (s : Session) (now : Instant) : Option (Option Session) :=
  if p.ttl = 0 then some none
  else if p.refreshBefore ≠ 0 ∧ reckoned p.refreshBefore ≤ s.remaining now then some none
  else do
    let expiresAt ← p.cappedExpiry? s.createdAt now
    return if expiresAt ≤ s.expiresAt then none
      else some { s with expiresAt, lastRefreshedAt := now }

/-- The session as it is after the refresh, and whether it was written. -/
def refresh (p : SessionPolicy) (s : Session) : Attempt SessionError (Session × Bool) := do
  let now ← ask .now
  let past ← orBreakdown (p.pastMaxAge? s now)
  if past then
    discard s.id
    throw .notFound
  match ← orBreakdown (p.refreshed? s now) with
  | none => return (s, false)
  | some session =>
    persist session now
    return (session, true)

/-- Deletes a session, or nothing. -/
def delete (id : String) : Attempt SessionError Unit := do
  orTell .store (← ask (.deleteSession id))

end SessionPolicy

end Gatehouse
