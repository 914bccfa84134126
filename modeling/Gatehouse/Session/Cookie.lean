import Gatehouse.Http.Header
import Gatehouse.Settings.Basic
import Gatehouse.Text.Blank
import Gatehouse.Text.Numeral
import Gatehouse.Text.Split
import Gatehouse.Time.HttpDate

/-!
# The session cookie

The identifier of a session travels in a cookie. It is read from the first pair of its name among all
cookies of a request, and written with attributes that keep scripts and other sites away from it.
-/

namespace Gatehouse

open Text Http

structure CookieConfig where
  rawName : String
  rawPath : String
  domain : Option String
  secure : Bool
  sameSite : SameSite
deriving DecidableEq

namespace CookieConfig

def ofSettings (s : CookieSettings) : CookieConfig where
  rawName := s.name
  rawPath := s.path
  domain := s.domain.filter fun d => !isBlankText d
  secure := s.secure
  sameSite := s.sameSite

instance : Inhabited CookieConfig := ⟨ofSettings {}⟩

def name (c : CookieConfig) : String := if c.rawName = "" then "sniply_session" else c.rawName

def path (c : CookieConfig) : String := if c.rawPath = "" then "/" else c.rawPath

/-- The name and the value of a cookie among others. -/
def pair? (piece : List Char) : Option (List Char × List Char) := cut '=' (trimChars piece)

/-- All cookies of a header value. -/
def pairs (value : List Char) : List (List Char × List Char) := (pieces ';' value).filterMap pair?

/-- The session identifier in a request's headers. An empty one counts as none. -/
def read (c : CookieConfig) (hs : Headers) : Option String := do
  let cookies := ((hs.values "cookie").filterMap textOfValue?).flatMap pairs
  let (_, value) ← cookies.find? fun p => p.1 = c.name.toList
  let id := trimChars value
  if id = [] then none else some (String.ofList id)

def sameSiteText : SameSite → String
  | .strict => "Strict"
  | .lax => "Lax"
  | .none => "None"

def text (c : CookieConfig) (value : String) (expiresAt : Instant) (maxAge : Nat) : String :=
  c.name ++ "=" ++ value ++ "; Path=" ++ c.path ++ "; Expires=" ++ Time.httpDate expiresAt ++
    "; Max-Age=" ++ String.ofList (decimal maxAge) ++ "; HttpOnly" ++
    (match c.domain with
     | some d => "; Domain=" ++ d
     | none => "") ++
    (if c.secure then "; Secure" else "") ++ "; SameSite=" ++ sameSiteText c.sameSite

/-- Text that can stand in a header. -/
def headerText? (s : String) : Option String := if s.toList.all isValueChar then some s else none

/-- The header that hands out a session identifier. Its age limit is in whole seconds, rounded down. -/
def write (c : CookieConfig) (value : String) (expiresAt now : Instant) : Option String :=
  headerText? (c.text value expiresAt ((expiresAt.since now).toNat / Span.perSecond))

/-- The header that takes the identifier back. -/
def clear (c : CookieConfig) : Option String := headerText? (c.text "" .epoch 0)

end CookieConfig

end Gatehouse
