import Gatehouse.Principal
import Gatehouse.Procedure
import Gatehouse.Text.Blank

/-!
# Managing API keys

An owner makes keys, lists them and revokes them; whoever holds the token of a key acts as its owner within
the key's scope. Keys of others are as good as absent, and a token that does not hold is told nothing more.
-/

namespace Gatehouse.ApiKey

open Attempt

structure Created where
  key : ApiKey
  /-- The token, which is told this once. -/
  token : String
deriving DecidableEq

/-- Makes a key. `hash` is the hash under which tokens are filed. -/
def create (hash : String → String) (owner : Principal) (name scope : String) :
    Attempt AuthError Created := do
  let scope ← settled (Scope.ofText scope)
  let token ← ask (.generate 32)
  let token := "sk_" ++ token
  let id ← ask (.generate 12)
  let createdAt ← ask .now
  let key : ApiKey :=
    { id := "key_" ++ id, userId := owner.userId, userRole := owner.role, name := Text.trim name, scope,
      tokenHash := hash token, tokenStart := String.ofList (token.toList.take 12), createdAt,
      revokedAt := none }
  orTell (fun _ => .internal "failed to create api key") (← ask (.insertKey key))
  return ⟨key, token⟩

def list (owner : Principal) : Attempt AuthError (List ApiKey) := do
  orTell (fun _ => .internal "failed to list api keys") (← ask (.listKeys owner.userId))

/-- Revokes a key of the owner's. Revoking it again changes nothing and is no error. -/
def revokeById (owner : Principal) (id : String) : Attempt AuthError Unit := do
  let id := Text.trim id
  if id = "" then throw (.invalidInput "invalid id")
  let found ← orTell (fun _ => .internal "failed to load api key") (← ask (.getKey id))
  match found.filter fun k => k.userId = owner.userId with
  | none => throw (.notFound "api key not found")
  | some key =>
    if key.isRevoked then return
    let moment ← ask .now
    let found ← orTell (fun _ => .internal "failed to revoke api key") (← ask (.revokeKey id moment))
    if !found then throw (.notFound "api key not found")

/-- The owner of the key that a token belongs to. -/
def authenticate (hash : String → String) (token : String) (m : Http.Method) :
    Attempt AuthError Principal := do
  let token := Text.trim token
  if token = "" then throw .notAuthenticated
  let found ← orTell (fun _ => .internal "failed to authenticate api key") (← ask (.findKey (hash token)))
  match found.filter fun k => !k.isRevoked with
  | none => throw .notAuthenticated
  | some key =>
    if !key.scope.allows m then throw .notAllowed
    return ⟨key.userId, key.userRole⟩

end Gatehouse.ApiKey
