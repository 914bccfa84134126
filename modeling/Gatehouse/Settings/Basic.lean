/-!
# Settings

What an operator may choose: how long sessions live, how their cookie looks, how fast logins are
throttled, and where shared state is kept. Every field has a default except the address of a Redis
server, which exists only where one is configured. A field that is left out of a section is chosen for by
itself, and a section that is left out as a whole; the two choices are the same.
-/

namespace Gatehouse

inductive SameSite where
  | strict | lax | none
deriving DecidableEq, Repr

namespace SameSite

def name : SameSite → String
  | .strict => "strict"
  | .lax => "lax"
  | .none => "none"

def ofName? (s : String) : Option SameSite :=
  if s = "strict" then some .strict
  else if s = "lax" then some .lax
  else if s = "none" then some .none
  else Option.none

theorem ofName?_name (s : SameSite) : ofName? s.name = some s := by cases s <;> rfl

instance : Inhabited SameSite := ⟨.lax⟩

end SameSite

namespace FieldDefault

def sessionTtl : UInt64 := 604800
def sessionMaxAge : UInt64 := 2592000
def refreshBefore : UInt64 := 86400
def idBytes : UInt64 := 32
def csrfBytes : UInt64 := 32
def sessionPrefix : String := "sniply:session:"
def cookieName : String := "sniply_session"
def cookiePath : String := "/"
def cookieSecure : Bool := true
def rateLimitEnabled : Bool := true
def rateLimit : UInt64 := 5
def rateWindow : UInt64 := 60
def ratePrefix : String := "sniply:ratelimit:"
def redisTimeout : UInt64 := 3000

end FieldDefault

structure SessionSettings where
  ttlSecs : UInt64 := FieldDefault.sessionTtl
  /-- Zero means that sessions have no hard limit. -/
  maxAgeSecs : UInt64 := FieldDefault.sessionMaxAge
  refreshBeforeSecs : UInt64 := FieldDefault.refreshBefore
  idBytes : UInt64 := FieldDefault.idBytes
  csrfBytes : UInt64 := FieldDefault.csrfBytes
  keyPrefix : String := FieldDefault.sessionPrefix
deriving DecidableEq

instance : Inhabited SessionSettings := ⟨{}⟩

theorem SessionSettings.default_eq : (default : SessionSettings) =
    ⟨FieldDefault.sessionTtl, FieldDefault.sessionMaxAge, FieldDefault.refreshBefore, FieldDefault.idBytes,
      FieldDefault.csrfBytes, FieldDefault.sessionPrefix⟩ := rfl

structure CookieSettings where
  name : String := FieldDefault.cookieName
  path : String := FieldDefault.cookiePath
  domain : Option String := none
  secure : Bool := FieldDefault.cookieSecure
  sameSite : SameSite := default
deriving DecidableEq

instance : Inhabited CookieSettings := ⟨{}⟩

theorem CookieSettings.default_eq : (default : CookieSettings) =
    ⟨FieldDefault.cookieName, FieldDefault.cookiePath, none, FieldDefault.cookieSecure, default⟩ := rfl

structure RateLimitSettings where
  enabled : Bool := FieldDefault.rateLimitEnabled
  limit : UInt64 := FieldDefault.rateLimit
  windowSecs : UInt64 := FieldDefault.rateWindow
  keyPrefix : String := FieldDefault.ratePrefix
deriving DecidableEq

instance : Inhabited RateLimitSettings := ⟨{}⟩

theorem RateLimitSettings.default_eq : (default : RateLimitSettings) =
    ⟨FieldDefault.rateLimitEnabled, FieldDefault.rateLimit, FieldDefault.rateWindow,
      FieldDefault.ratePrefix⟩ := rfl

structure RedisSettings where
  url : String
  timeoutMs : UInt64 := FieldDefault.redisTimeout
deriving DecidableEq

structure Settings where
  trustProxyHeaders : Bool := false
  session : SessionSettings := default
  cookie : CookieSettings := default
  loginRateLimit : RateLimitSettings := default
  redis : Option RedisSettings := none
deriving DecidableEq

end Gatehouse
