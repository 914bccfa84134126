import Gatehouse.ApiKey.Management
import Gatehouse.Json.Record

/-!
# Messages

What requests and responses say in JSON. A request may leave every field out; a response has all of them, but
an instant of revocation only if there is one.
-/

namespace Gatehouse

open Json

def Scope.ofJson? : Json → Option Scope := variant? Scope.ofName?

structure LoginRequest where
  email : String
  password : String
deriving DecidableEq, Repr

namespace LoginRequest

def ofJson? (v : Json) : Option LoginRequest := do
  let fs ← fields? ["email", "password"] v
  return {
    email := ← fs.orDefault "email" text? ""
    password := ← fs.orDefault "password" text? "" }

end LoginRequest

structure LoginResponse where
  sessionExpiresAt : Instant
  csrfToken : String
deriving DecidableEq

namespace LoginResponse

def ofJson? (v : Json) : Option LoginResponse := do
  let fs ← fields? ["session_expires_at", "csrf_token"] v
  return {
    sessionExpiresAt := ← fs.required "session_expires_at" instant?
    csrfToken := ← fs.required "csrf_token" text? }

def toJson (r : LoginResponse) : Json :=
  .record [("session_expires_at", .instant r.sessionExpiresAt), ("csrf_token", .text r.csrfToken)]

end LoginResponse

structure CreateKeyRequest where
  name : String
  scope : String
deriving DecidableEq, Repr

namespace CreateKeyRequest

def ofJson? (v : Json) : Option CreateKeyRequest := do
  let fs ← fields? ["name", "scope"] v
  return {
    name := ← fs.orDefault "name" text? ""
    scope := ← fs.orDefault "scope" text? "" }

end CreateKeyRequest

structure CreateKeyResponse where
  id : String
  name : String
  scope : Scope
  token : String
  tokenStart : String
  createdAt : Instant
deriving DecidableEq

namespace CreateKeyResponse

def ofCreated (c : ApiKey.Created) : CreateKeyResponse where
  id := c.key.id
  name := c.key.name
  scope := c.key.scope
  token := c.token
  tokenStart := c.key.tokenStart
  createdAt := c.key.createdAt

def ofJson? (v : Json) : Option CreateKeyResponse := do
  let fs ← fields? ["id", "name", "scope", "token", "token_prefix", "created_at"] v
  return {
    id := ← fs.required "id" text?
    name := ← fs.required "name" text?
    scope := ← fs.required "scope" Scope.ofJson?
    token := ← fs.required "token" text?
    tokenStart := ← fs.required "token_prefix" text?
    createdAt := ← fs.required "created_at" instant? }

def toJson (r : CreateKeyResponse) : Json :=
  .record [("id", .text r.id), ("name", .text r.name), ("scope", .text r.scope.name),
    ("token", .text r.token), ("token_prefix", .text r.tokenStart), ("created_at", .instant r.createdAt)]

end CreateKeyResponse

structure KeyResponse where
  id : String
  name : String
  scope : Scope
  tokenStart : String
  createdAt : Instant
  revokedAt : Option Instant
deriving DecidableEq

namespace KeyResponse

def ofKey (k : ApiKey) : KeyResponse where
  id := k.id
  name := k.name
  scope := k.scope
  tokenStart := k.tokenStart
  createdAt := k.createdAt
  revokedAt := k.revokedAt

def ofJson? (v : Json) : Option KeyResponse := do
  let fs ← fields? ["id", "name", "scope", "token_prefix", "created_at", "revoked_at"] v
  return {
    id := ← fs.required "id" text?
    name := ← fs.required "name" text?
    scope := ← fs.required "scope" Scope.ofJson?
    tokenStart := ← fs.required "token_prefix" text?
    createdAt := ← fs.required "created_at" instant?
    revokedAt := ← fs.orDefault "revoked_at" (nullOr? instant?) none }

def toJson (r : KeyResponse) : Json :=
  .record ([("id", .text r.id), ("name", .text r.name), ("scope", .text r.scope.name),
    ("token_prefix", .text r.tokenStart), ("created_at", .instant r.createdAt)] ++
    match r.revokedAt with
    | some t => [("revoked_at", .instant t)]
    | none => [])

end KeyResponse

end Gatehouse
