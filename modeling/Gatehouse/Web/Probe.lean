import Gatehouse.Web.Routes

/-!
# Routes that tell who is asking

One route for every choice of credentials answers with the caller's identity, whatever the method. One more
stands outside the guard and so never knows anybody.
-/

namespace Gatehouse

open Http

inductive Probe where
  | guarded (options : AuthOptions)
  | bare
deriving DecidableEq, Repr

def Probe.ofPath? (path : List Char) : Option Probe :=
  if path = "/both".toList then some (.guarded {})
  else if path = "/session".toList then some (.guarded .sessionOnly)
  else if path = "/apikey".toList then some (.guarded .apiKeyOnly)
  else if path = "/neither".toList then some (.guarded { allowApiKey := false, allowSession := false })
  else if path = "/bare".toList then some .bare
  else none

def Authentication.toJson (auth : Authentication) : Json :=
  .record [("method", .text auth.method.name), ("role", .text auth.principal.role),
    ("user_id", .text auth.principal.userId)]

namespace Site

def probe (site : Site) (req : Request) : Probe → Procedure Response
  | .guarded options => do
    let r ← site.guard options req fun auth => return Response.json 200 auth.toJson
    return finish false r
  | .bare =>
    if req.method = .get ∨ req.method = .head then do
      let r ← Procedure.orBreakdown AuthError.notAuthenticated.response?
      return finish (req.method = .head) r
    else return finish false (Response.methodNotAllowed "GET,HEAD")

/-- The routes together with those that tell who is asking. -/
def handleWithProbes (site : Site) (req : Request) : Procedure Response :=
  match Probe.ofPath? req.path with
  | some p => site.probe req p
  | none => site.handle req

end Site

end Gatehouse
