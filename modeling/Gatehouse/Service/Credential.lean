import Gatehouse.Csrf
import Gatehouse.Session.Cookie

/-!
# Credentials of a request

A request may carry the token of an API key or the identifier of a session. A route says which of them count;
where both do, the key goes first, and whatever becomes of it, the session is not asked.
-/

namespace Gatehouse

open Text Http

structure AuthOptions where
  allowApiKey : Bool := true
  allowSession : Bool := true
deriving DecidableEq, Repr

namespace AuthOptions

def sessionOnly : AuthOptions := { allowApiKey := false }

def apiKeyOnly : AuthOptions := { allowSession := false }

end AuthOptions

inductive Credential where
  | apiKey (token : String)
  | session (id : String) (csrfToken : Option String)
  | missing
deriving DecidableEq, Repr

namespace Credential

/-- The token in the header that is meant for it. -/
def dedicatedToken? (hs : Headers) : Option (List Char) := do
  let token := trimChars (← hs.firstText? "x-api-key")
  if token = [] then none else some token

/-- The token of a `Bearer` authorization. -/
def bearerToken? (hs : Headers) : Option (List Char) := do
  let (scheme, rest) ← cut ' ' (trimChars (← hs.firstText? "authorization"))
  let token := trimChars rest
  if scheme.map Char.toLower = "bearer".toList ∧ token ≠ [] then some token else none

def apiKeyToken? (hs : Headers) : Option String :=
  ((dedicatedToken? hs).or (bearerToken? hs)).map String.ofList

def ofHeaders (hs : Headers) (cookie : CookieConfig) (options : AuthOptions) : Credential :=
  match if options.allowApiKey then apiKeyToken? hs else none with
  | some token => .apiKey token
  | none =>
    match if options.allowSession then cookie.read hs else none with
    | some id => .session id (Csrf.headerToken? hs)
    | none => .missing

end Credential

end Gatehouse
