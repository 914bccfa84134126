import Gatehouse.Time.Span

/-!
# What a caller is told

Every refusal has a kind, which fixes its HTTP status, and a message for the caller. A refusal for too many
requests also says how long to wait. Causes inside the program are told as one general message.
-/

namespace Gatehouse

inductive ErrorKind where
  | invalidInput | unauthorized | forbidden | notFound | conflict | rateLimited | internal
deriving DecidableEq, Repr

namespace ErrorKind

def name : ErrorKind → String
  | invalidInput => "invalid_input"
  | unauthorized => "unauthorized"
  | forbidden => "forbidden"
  | notFound => "not_found"
  | conflict => "conflict"
  | rateLimited => "rate_limited"
  | internal => "internal"

def status : ErrorKind → Nat
  | invalidInput => 400
  | unauthorized => 401
  | forbidden => 403
  | notFound => 404
  | conflict => 409
  | rateLimited => 429
  | internal => 500

end ErrorKind

inductive AuthError where
  | invalidInput (message : String)
  | unauthorized (message : String)
  | forbidden (message : String)
  | notFound (message : String)
  | conflict (message : String)
  | rateLimited (message : String) (retryAfter : Span)
  | internal (message : String)
deriving DecidableEq, Repr

namespace AuthError

/-- The one refusal for credentials that do not hold, whatever the reason. -/
def notAuthenticated : AuthError := .unauthorized "unauthorized"

def notAllowed : AuthError := .forbidden "forbidden"

def tooMany (retryAfter : Span) : AuthError := .rateLimited "too many requests" retryAfter

def kind : AuthError → ErrorKind
  | invalidInput _ => .invalidInput
  | unauthorized _ => .unauthorized
  | forbidden _ => .forbidden
  | notFound _ => .notFound
  | conflict _ => .conflict
  | rateLimited _ _ => .rateLimited
  | internal _ => .internal

def message : AuthError → String
  | invalidInput m => m
  | unauthorized m => m
  | forbidden m => m
  | notFound m => m
  | conflict m => m
  | rateLimited m _ => m
  | internal m => m

def retryAfter? : AuthError → Option Span
  | rateLimited _ d => some d
  | _ => none

end AuthError

/-- Whole seconds to wait: rounded up, and at least one. A count beyond 64 bits cannot be told. -/
def retryAfterSecs? (d : Span) : Option Nat :=
  if d.secsUp < Nat.pow 2 64 then some (max 1 d.secsUp) else none

end Gatehouse
