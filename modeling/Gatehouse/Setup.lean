import Gatehouse.RateLimit.Window
import Gatehouse.Settings.Validation
import Gatehouse.Web.Guard
import Gatehouse.World

/-!
# Setting up

From settings that hold together, the site and the world it begins in. State is kept in memory; a Redis server
can be named in the settings, but there is no connection to one here.
-/

namespace Gatehouse

namespace Settings

def site (s : Settings) : Site where
  service := { policy := SessionPolicy.ofSettings s.session, hash := tokenHash }
  cookie := CookieConfig.ofSettings s.cookie
  trustProxy := s.trustProxyHeaders

/-- A world without sessions and keys. Logins are limited if the settings say so. -/
def world (s : Settings) (now : Instant) (tokens : TokenSource) (users : UserStore) : World where
  now := now
  tokens := tokens
  users := users
  limiter :=
    if s.loginRateLimit.enabled then some (Limiter.start (FixedWindow.ofSettings s.loginRateLimit) now)
    else none

def setUp (s : Settings) (now : Instant) (tokens : TokenSource) (users : UserStore) :
    Except SettingsError (Site × World) := do
  s.validate
  if s.redis.isSome then throw .redisUnavailable
  return (s.site, s.world now tokens users)

end Settings

end Gatehouse
