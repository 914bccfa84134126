import Gatehouse.Time.Instant

/-!
# Sessions

A session belongs to a user, carries the token that guards against forged requests, and ends at an instant
that may be moved while it lives. The instant itself still belongs to the session.
-/

namespace Gatehouse

structure Session where
  id : String
  userId : String
  role : String
  csrfToken : String
  createdAt : Instant
  lastRefreshedAt : Instant
  expiresAt : Instant
deriving DecidableEq

namespace Session

/-- Nanoseconds until the end, negative after it. -/
def remaining (s : Session) (now : Instant) : Int := s.expiresAt.since now

def isExpired (s : Session) (now : Instant) : Bool := s.expiresAt < now

/-- Whether a session has outlived a length of time, if that ends within the range of instants. -/
def exceedsMaxAge? (s : Session) (now : Instant) (maxAge : Int) : Option Bool := do
  let limit ← s.createdAt.add? maxAge
  return limit < now

end Session

end Gatehouse
