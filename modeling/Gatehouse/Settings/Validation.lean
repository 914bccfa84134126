import Gatehouse.Settings.Basic
import Gatehouse.Text.Blank

/-!
# Which settings work together

Settings that read well one by one may still contradict each other. The checks run in a fixed order, and
the first that fails is the answer.
-/

namespace Gatehouse

inductive SettingsError where
  | zeroTtl
  | maxAgeBelowTtl (maxAge ttl : UInt64)
  | refreshNotBelowTtl (refreshBefore ttl : UInt64)
  | tooFewRandomBytes
  | blankCookieName
  | insecureSameSiteNone
  | zeroRateLimit
  | blankRedisUrl
  | redisUnavailable
deriving DecidableEq, Repr

namespace SettingsError

def message : SettingsError → String
  | zeroTtl => "session.ttl_secs must be greater than 0"
  | maxAgeBelowTtl maxAge ttl =>
    "session.max_age_secs (" ++ toString maxAge.toNat ++
      ") cannot be smaller than session.ttl_secs (" ++ toString ttl.toNat ++ ")"
  | refreshNotBelowTtl refreshBefore ttl =>
    "session.refresh_before_secs (" ++ toString refreshBefore.toNat ++
      ") must be smaller than session.ttl_secs (" ++ toString ttl.toNat ++ ")"
  | tooFewRandomBytes => "session id and csrf token need at least 32 random bytes"
  | blankCookieName => "cookie.name must not be empty"
  | insecureSameSiteNone => "cookie.same_site = \"none\" requires cookie.secure = true"
  | zeroRateLimit => "login_rate_limit.limit and login_rate_limit.window_secs must be greater than 0"
  | blankRedisUrl => "redis.url must not be empty"
  | redisUnavailable => "redis is configured but the redis-store feature is not enabled"

end SettingsError

namespace Settings

/-- The first contradiction among the settings, if there is one. -/
def fault? (s : Settings) : Option SettingsError :=
  let session := s.session
  let limit := s.loginRateLimit
  if session.ttlSecs = 0 then some .zeroTtl
  else if 0 < session.maxAgeSecs ∧ session.maxAgeSecs < session.ttlSecs then
    some (.maxAgeBelowTtl session.maxAgeSecs session.ttlSecs)
  else if session.ttlSecs ≤ session.refreshBeforeSecs then
    some (.refreshNotBelowTtl session.refreshBeforeSecs session.ttlSecs)
  else if session.idBytes < 32 ∨ session.csrfBytes < 32 then some .tooFewRandomBytes
  else if Text.isBlankText s.cookie.name then some .blankCookieName
  else if s.cookie.sameSite = .none ∧ s.cookie.secure = false then some .insecureSameSiteNone
  else if limit.enabled = true ∧ (limit.limit = 0 ∨ limit.windowSecs = 0) then some .zeroRateLimit
  else if s.redis.any (fun r => Text.isBlankText r.url) then some .blankRedisUrl
  else none

def validate (s : Settings) : Except SettingsError Unit :=
  match s.fault? with
  | none => .ok ()
  | some e => .error e

end Settings

end Gatehouse
