import Gatehouse.ApiKey.Management
import Gatehouse.Service.Credential
import Gatehouse.Session.Lifecycle

/-!
# The authentication service

Users log in with a password and get a session; requests authenticate with the session or with an API key.
Logins are limited by client address and by email address, and a login that fails does not tell why.
-/

namespace Gatehouse

open Attempt

structure Service where
  policy : SessionPolicy
  /-- The hash under which tokens of API keys are filed. -/
  hash : String → String

structure LoginOutcome where
  principal : Principal
  session : Session
deriving DecidableEq

structure SessionAuth where
  principal : Principal
  session : Session
  /-- The session has been written anew, and its cookie is to follow. -/
  refreshed : Bool
deriving DecidableEq

structure Authentication where
  principal : Principal
  method : AuthMethod
  refreshedSession : Option Session
deriving DecidableEq

namespace Service

def wrongCredentials : AuthError := .unauthorized "invalid credentials"

/-- Counts an attempt and ends the login if it is one too many. -/
def charge (key : String) : Attempt AuthError Unit := do
  let decision ← orTell (fun _ => .internal "failed to check rate limit") (← ask (.attempt key))
  if !decision.allowed then throw (.tooMany decision.retryAfter)

/-- The counter of a client address, unless the address is blank. -/
def addressKey? (ip : Option String) : Option String :=
  (ip.map Text.trim).bind fun ip => if ip = "" then none else some ("login:ip:" ++ ip)

def emailKey (email : String) : String := "login:email:" ++ email

def login (sv : Service) (email password : String) (clientIp : Option String) :
    Attempt AuthError LoginOutcome := do
  let email := normalEmail email
  let password := Text.trim password
  if email = "" ∨ password = "" then throw (.invalidInput "email and password are required")
  if !email.toList.contains '@' then throw (.invalidInput "invalid email")
  match addressKey? clientIp with
  | some key => charge key
  | none => pure ()
  charge (emailKey email)
  let found ← orTell (fun _ => .internal "failed to authenticate") (← ask (.findUser email))
  match found with
  | none => throw wrongCredentials
  | some user =>
    let agrees ← orTell (fun _ => .internal "failed to authenticate")
      (← ask (.verifyPassword password user.passwordHash))
    if !agrees then throw wrongCredentials
    let session ← retell (fun _ => .internal "failed to create session")
      (sv.policy.create user.id user.role)
    return ⟨⟨user.id, user.role⟩, session⟩

/-- Ends a session. A blank identifier ends none. -/
def logout (id : String) : Attempt AuthError Unit := do
  let id := Text.trim id
  if id = "" then return
  retell (fun _ => .internal "failed to logout") (SessionPolicy.delete id)

def ofSessionError : SessionError → AuthError
  | .notFound => .notAuthenticated
  | .store _ => .internal "failed to authenticate session"

def authenticateApiKey (sv : Service) (token : String) (m : Http.Method) : Attempt AuthError Principal :=
  ApiKey.authenticate sv.hash token m

/-- Reads the session, checks the request against forgery, and refreshes the session. -/
def authenticateSession (sv : Service) (id : String) (m : Http.Method) (csrfToken : Option String) :
    Attempt AuthError SessionAuth := do
  let session ← retell ofSessionError (sv.policy.get id)
  if !Csrf.verify m csrfToken session.csrfToken then throw .notAllowed
  let (session, refreshed) ← retell ofSessionError (sv.policy.refresh session)
  return ⟨⟨session.userId, session.role⟩, session, refreshed⟩

def authenticate (sv : Service) (credential : Credential) (m : Http.Method) :
    Attempt AuthError Authentication :=
  match credential with
  | .apiKey token => do
    let principal ← sv.authenticateApiKey token m
    return ⟨principal, .apiKey, none⟩
  | .session id csrfToken => do
    let auth ← sv.authenticateSession id m csrfToken
    return ⟨auth.principal, .session, if auth.refreshed then some auth.session else none⟩
  | .missing => throw .notAuthenticated

end Service

end Gatehouse
