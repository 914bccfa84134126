import Gatehouse.Proofs.ActivityRun
import Gatehouse.Proofs.CookieText
import Gatehouse.Proofs.KeyManagement
import Gatehouse.Proofs.RequestCalls

/-!
# The cookies that go out with responses

Whenever a request writes a session, its response hands out the cookie of that session with the end that has
been written, and otherwise it hands out none. Whatever the route answers, the cookie follows; and no route
behind the guard breaks down, so that no cookie is lost.
-/

namespace Gatehouse.Proofs
open Service Attempt SessionPolicy

variable {site : Site} {w : World} {req : Http.Request} {id : String}

/-- The cookies that a response sets. -/
def setCookies (r : Http.Response) : List String :=
  (r.headers.filter fun h => h.1 = "set-cookie").map Prod.snd

lemma setCookies_addHeader (r : Http.Response) {name : String} (hname : name ≠ "set-cookie") (v : String) :
    setCookies (r.addHeader name v) = setCookies r := by
  simp [setCookies, Http.Response.addHeader, hname]

/-- A refusal sets no cookie and is no success. -/
lemma refusal_spec {e : AuthError} {r : Http.Response} (h : e.response? = some r) :
    setCookies r = [] ∧ r.status ≠ 200 := by
  have hjson :
      setCookies (Http.Response.json e.kind.status (.record [("error", .text e.message)])) = [] := rfl
  have hstatus : ∀ kind : ErrorKind, kind.status ≠ 200 := by
    intro kind
    cases kind <;> decide
  unfold AuthError.response? at h
  dsimp only at h
  cases hretry : e.retryAfter? with
  | none =>
    rw [hretry] at h
    cases h
    exact ⟨hjson, hstatus e.kind⟩
  | some d =>
    rw [hretry] at h
    obtain ⟨secs, _, rfl⟩ := Option.map_eq_some_iff.1 h
    rw [setCookies_addHeader _ (by decide)]
    exact ⟨hjson, hstatus e.kind⟩

lemma scope_refusal {text : String} {e : AuthError} (h : Scope.ofText text = .error e) :
    e = .invalidInput "invalid scope" := by
  unfold Scope.ofText at h
  dsimp only at h
  split at h
  · cases h
  · split at h <;> cases h
    rfl

/-- A session with its end moved by a refresh. -/
def renewed (s : Session) (now expiresAt : Instant) : Session := { s with expiresAt, lastRefreshedAt := now }

section
variable {route : Principal → Procedure Http.Response} {entry : Option (Except AuthError SessionAuth) × World}

end

/-- The credentials in a request to log in, if they can be read. -/
def sentLogin? (req : Http.Request) : Option LoginRequest :=
  if maxLoginBytes < req.body.length then none else (Json.ofBytes? req.body).bind LoginRequest.ofJson?

/-- What the service itself grants to the credentials in a request, before a cookie is thought of. -/
def loginOutcome? (site : Site) (w : World) (req : Http.Request) : Option LoginOutcome := do
  let sent ← sentLogin? req
  match (w.perform
    (site.service.login sent.email sent.password (clientAddress? site.trustProxy req)).run).1 with
  | some (.ok o) => some o
  | _ => none

/-- How a request to log in ends, whether or not its cookie can be written: nothing is granted and nothing
filed, or the session that is granted is filed, and all that is left to do is to answer. -/
inductive LoginRequestEnds (site : Site) (w : World) (req : Http.Request)
    (r : Option Http.Response × World) : Prop
  | refused (hnot : loginOutcome? site w req = none) (hsame : r.2.sessions = w.sessions)
      (hmute : ∀ response, r.1 = some response → setCookies response = [] ∧ response.status ≠ 200)
  | granted (userId role : String) (limiter : Option Limiter) (expiresAt evictAt : Instant) (s : Session)
      (hs : s = newSession site.service.policy w userId role expiresAt)
      (hexpiry : site.service.policy.cappedExpiry? w.now w.now = some expiresAt)
      (hbounded : Bounded site.service.policy s) (hevict : evictionOf? s = some evictAt)
      (houtcome : loginOutcome? site w req = some ⟨⟨userId, role⟩, s⟩)
      (hr : r = loginAnswered site
        (some (.ok ⟨⟨userId, role⟩, s⟩), fileSession (drawTokens { w with limiter }) s evictAt))

lemma loginRequest_ends (site : Site) (w : World) (req : Http.Request) :
    LoginRequestEnds site w req (w.perform (site.login req)) := by
  rw [perform_loginRequest]
  by_cases hlong : maxLoginBytes < req.body.length
  · have hunread : sentLogin? req = none := if_pos hlong
    rw [if_pos hlong]
    refine .refused ?_ rfl fun response hr => refusal_spec (e := .invalidInput "invalid request body") hr
    rw [loginOutcome?, hunread]
    rfl
  have hread : sentLogin? req = (Json.ofBytes? req.body).bind LoginRequest.ofJson? := if_neg hlong
  rw [if_neg hlong, ← hread]
  cases hsent : sentLogin? req with
  | none =>
    refine .refused ?_ rfl fun response hr => refusal_spec (e := .invalidInput "invalid json") hr
    rw [loginOutcome?, hsent]
    rfl
  | some sent =>
    dsimp only
    rcases login_ends site.service w sent.email sent.password (clientAddress? site.trustProxy req) with
      ⟨result, limiter, issued, hresult, hrun⟩ |
      ⟨limiter, userId, role, expiresAt, evictAt, hexpiry, hbounded, hevict, hrun⟩
    · have hnot : loginOutcome? site w req = none := by
        rw [loginOutcome?, hsent, Option.bind_eq_bind, Option.bind_some, hrun]
        split
        · exact absurd ‹_› (hresult _)
        · rfl
      rw [hrun]
      cases result with
      | none => exact .refused hnot rfl fun response hr => by cases hr
      | some result =>
        cases result with
        | error e => exact .refused hnot rfl fun response hr => refusal_spec (e := e) hr
        | ok o => exact absurd rfl (hresult o)
    · refine .granted userId role limiter expiresAt evictAt _ rfl hexpiry hbounded hevict ?_ (congrArg _ hrun)
      rw [loginOutcome?, hsent, Option.bind_eq_bind, Option.bind_some, hrun]

/-- Where a session that is written comes from: it is new, or it has been in the store before. -/
inductive Origin (w : World) (s : Session) : Prop
  | new (bytes : Nat) (hid : s.id = "ses_" ++ w.tokens.text w.tokens.issued bytes)
    (hcreated : s.createdAt = w.now)
  | known (e : StoredSession) (hfiled : w.sessions.get? s.id = some e)
    (hcreated : s.createdAt = e.session.createdAt)

end Gatehouse.Proofs
