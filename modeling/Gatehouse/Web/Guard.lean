import Gatehouse.Http.Message
import Gatehouse.Service.Basic

/-!
# The guard in front of routes

A guarded route is entered only with credentials that hold; otherwise the refusal is the response. When the
session has been refreshed on the way in, its cookie goes out with whatever the route answers.
-/

namespace Gatehouse

open Http

/-- A refusal as a response, unless its waiting time cannot be told. -/
def AuthError.response? (e : AuthError) : Option Response :=
  let r := Response.json e.kind.status (.record [("error", .text e.message)])
  match e.retryAfter? with
  | none => some r
  | some d => (retryAfterSecs? d).map fun secs => r.addHeader "retry-after" (toString secs)

/-- A service and how it meets its callers. -/
structure Site where
  service : Service
  cookie : CookieConfig
  /-- Headers about the client's address are believed. -/
  trustProxy : Bool

/-- The response that an attempt ends with, its refusal being one too. -/
def respond (p : Attempt AuthError Response) : Procedure Response := do
  match ← p.run with
  | .ok r => return r
  | .error e => Procedure.orBreakdown e.response?

namespace Site

/-- Adds the cookie of a session that has been refreshed. -/
def follow (site : Site) (refreshed : Option Session) (r : Response) : Procedure Response := do
  match refreshed with
  | none => return r
  | some session =>
    let now ← Procedure.ask .now
    match site.cookie.write session.id session.expiresAt now with
    | some cookie => return r.addHeader "set-cookie" cookie
    | none => return r

def guard (site : Site) (options : AuthOptions) (req : Request)
    (route : Authentication → Procedure Response) : Procedure Response := do
  let credential := Credential.ofHeaders req.headers site.cookie options
  match ← (site.service.authenticate credential req.method).run with
  | .error e => Procedure.orBreakdown e.response?
  | .ok auth =>
    let r ← route auth
    site.follow auth.refreshedSession r

end Site

end Gatehouse
