import Gatehouse.ApiKey.Scope
import Gatehouse.Time.Instant

/-!
# API keys

A key is kept with the hash of its token, never with the token itself. A key that has been revoked stays on
record with the instant of its revocation.
-/

namespace Gatehouse

structure ApiKey where
  id : String
  userId : String
  /-- The role of the owner when the key was made. -/
  userRole : String
  name : String
  scope : Scope
  tokenHash : String
  /-- The beginning of the token, to tell keys apart by sight. -/
  tokenStart : String
  createdAt : Instant
  revokedAt : Option Instant
deriving DecidableEq

namespace ApiKey

def isRevoked (k : ApiKey) : Bool := k.revokedAt.isSome

/-- Revokes a key at an instant, unless it has been revoked before. -/
def revoke (k : ApiKey) (moment : Instant) : ApiKey :=
  { k with revokedAt := some (k.revokedAt.getD moment) }

end ApiKey

end Gatehouse
