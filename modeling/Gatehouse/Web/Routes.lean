import Gatehouse.Http.Percent
import Gatehouse.Json.Reader
import Gatehouse.Web.ClientAddress
import Gatehouse.Web.Guard
import Gatehouse.Web.Messages

/-!
# The routes

Logging in and out is open to all; API keys are managed with a session only. The guard stands in front of the
key routes whatever the method, so a request with a method they do not know is refused before it is told so.
-/

namespace Gatehouse

open Http Attempt

inductive Endpoint where
  | login
  | logout
  | apiKeys
  /-- A key, by a segment of the path that is still encoded. -/
  | apiKey (segment : List Char)
deriving DecidableEq, Repr

/-- What follows a text at the front of another. -/
def dropFront? : (front : List Char) → List Char → Option (List Char)
  | [], cs => some cs
  | _ :: _, [] => none
  | f :: fs, c :: cs => if f = c then dropFront? fs cs else none

def Endpoint.ofPath? (path : List Char) : Option Endpoint :=
  if path = "/auth/login".toList then some .login
  else if path = "/auth/logout".toList then some .logout
  else if path = "/auth/api-keys".toList then some .apiKeys
  else do
    let segment ← dropFront? "/auth/api-keys/".toList path
    if segment ≠ [] ∧ '/' ∉ segment then some (.apiKey segment) else none

/-- The most that the body of a login may hold. -/
def maxLoginBytes : Nat := 65536

/-- The most that any other body may hold. -/
def maxBodyBytes : Nat := 2097152

/-- A message in the body of a request. -/
def readMessage (read : Json → Option α) (body : List UInt8) : Attempt AuthError α :=
  match (Json.ofBytes? body).bind read with
  | some a => return a
  | none => throw (.invalidInput "invalid json")

namespace Site

def login (site : Site) (req : Request) : Procedure Response := respond do
  if maxLoginBytes < req.body.length then throw (.invalidInput "invalid request body")
  let payload ← readMessage LoginRequest.ofJson? req.body
  let outcome ← site.service.login payload.email payload.password (clientAddress? site.trustProxy req)
  let session := outcome.session
  let now ← ask .now
  match site.cookie.write session.id session.expiresAt now with
  | none => throw (.internal "failed to set session cookie")
  | some cookie =>
    let body : LoginResponse := ⟨session.expiresAt, session.csrfToken⟩
    return (Response.json 200 body.toJson).addHeader "set-cookie" cookie

/-- The cookie is taken back even if the session could not be ended. -/
def logout (site : Site) (req : Request) : Procedure Response := do
  match site.cookie.read req.headers with
  | none => pure ()
  | some id =>
    let _ ← (Service.logout id).run
  let r : Response := { status := 204 }
  match site.cookie.clear with
  | some cookie => return r.addHeader "set-cookie" cookie
  | none => return r

def createKey (site : Site) (req : Request) (owner : Principal) : Procedure Response :=
  if maxBodyBytes < req.body.length then
    return Response.plain 413 "Failed to buffer the request body: length limit exceeded"
  else respond do
    let payload ← readMessage CreateKeyRequest.ofJson? req.body
    let created ← ApiKey.create site.service.hash owner payload.name payload.scope
    return Response.json 201 (CreateKeyResponse.ofCreated created).toJson

def listKeys (owner : Principal) : Procedure Response := respond do
  let keys ← ApiKey.list owner
  return Response.json 200 (.arr (keys.map fun k => (KeyResponse.ofKey k).toJson))

def revokeKey (segment : List Char) (owner : Principal) : Procedure Response :=
  match segmentText? segment with
  | none => return Response.plain 400 "Invalid URL: Invalid UTF-8 in \x60id\x60"
  | some id => respond do
    ApiKey.revokeById owner id
    return { status := 204 }

def guardKeys (site : Site) (req : Request) (route : Principal → Procedure Response) : Procedure Response :=
  site.guard .sessionOnly req fun auth => route auth.principal

/-- A response that has its length, and nothing but its head if only that was asked for. -/
def finish (headOnly : Bool) (r : Response) : Response :=
  if headOnly then r.withLength.withoutBody else r.withLength

def unknownMethod (site : Site) (req : Request) (methods : String) : Procedure Response := do
  let r ← site.guardKeys req fun _ => return Response.methodNotAllowed methods
  return r.withAllow methods

/-- The response to a request for a path that is known. -/
def dispatch (site : Site) (req : Request) : Endpoint → Procedure Response
  | .login => if req.method = .post then site.login req else return Response.methodNotAllowed "POST"
  | .logout => if req.method = .post then site.logout req else return Response.methodNotAllowed "POST"
  | .apiKeys =>
    if req.method = .post then site.guardKeys req (site.createKey req)
    else if req.method = .get ∨ req.method = .head then site.guardKeys req listKeys
    else site.unknownMethod req "POST,GET,HEAD"
  | .apiKey segment =>
    if req.method = .delete then site.guardKeys req (revokeKey segment)
    else site.unknownMethod req "DELETE"

def handle (site : Site) (req : Request) : Procedure Response :=
  match Endpoint.ofPath? req.path with
  | none => return finish false Response.notFound
  | some endpoint => do
    let r ← site.dispatch req endpoint
    return finish (endpoint = .apiKeys ∧ req.method = .head) r

end Site

end Gatehouse
