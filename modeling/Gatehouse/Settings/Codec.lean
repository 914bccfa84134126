import Gatehouse.Json.Record
import Gatehouse.Settings.Basic

/-!
# Settings in JSON

Each section is a record. A field that is left out has its default, and so has a section.
-/

namespace Gatehouse

open Json

def SameSite.ofJson? : Json → Option SameSite := variant? SameSite.ofName?

def SameSite.toJson (s : SameSite) : Json := .text s.name

namespace SessionSettings

def names : List String :=
  ["ttl_secs", "max_age_secs", "refresh_before_secs", "id_bytes", "csrf_bytes", "key_prefix"]

def ofJson? (v : Json) : Option SessionSettings := do
  let fs ← fields? names v
  return {
    ttlSecs := ← fs.orDefault "ttl_secs" uint64? FieldDefault.sessionTtl
    maxAgeSecs := ← fs.orDefault "max_age_secs" uint64? FieldDefault.sessionMaxAge
    refreshBeforeSecs := ← fs.orDefault "refresh_before_secs" uint64? FieldDefault.refreshBefore
    idBytes := ← fs.orDefault "id_bytes" uint64? FieldDefault.idBytes
    csrfBytes := ← fs.orDefault "csrf_bytes" uint64? FieldDefault.csrfBytes
    keyPrefix := ← fs.orDefault "key_prefix" text? FieldDefault.sessionPrefix }

def toJson (s : SessionSettings) : Json :=
  .record [("ttl_secs", .nat s.ttlSecs.toNat), ("max_age_secs", .nat s.maxAgeSecs.toNat),
    ("refresh_before_secs", .nat s.refreshBeforeSecs.toNat), ("id_bytes", .nat s.idBytes.toNat),
    ("csrf_bytes", .nat s.csrfBytes.toNat), ("key_prefix", .text s.keyPrefix)]

end SessionSettings

namespace CookieSettings

def names : List String := ["name", "path", "domain", "secure", "same_site"]

def ofJson? (v : Json) : Option CookieSettings := do
  let fs ← fields? names v
  return {
    name := ← fs.orDefault "name" text? FieldDefault.cookieName
    path := ← fs.orDefault "path" text? FieldDefault.cookiePath
    domain := ← fs.orDefault "domain" (nullOr? text?) none
    secure := ← fs.orDefault "secure" bool? FieldDefault.cookieSecure
    sameSite := ← fs.orDefault "same_site" SameSite.ofJson? default }

def toJson (s : CookieSettings) : Json :=
  .record [("name", .text s.name), ("path", .text s.path), ("domain", orNull Json.text s.domain),
    ("secure", .bool s.secure), ("same_site", s.sameSite.toJson)]

end CookieSettings

namespace RateLimitSettings

def names : List String := ["enabled", "limit", "window_secs", "key_prefix"]

def ofJson? (v : Json) : Option RateLimitSettings := do
  let fs ← fields? names v
  return {
    enabled := ← fs.orDefault "enabled" bool? FieldDefault.rateLimitEnabled
    limit := ← fs.orDefault "limit" uint64? FieldDefault.rateLimit
    windowSecs := ← fs.orDefault "window_secs" uint64? FieldDefault.rateWindow
    keyPrefix := ← fs.orDefault "key_prefix" text? FieldDefault.ratePrefix }

def toJson (s : RateLimitSettings) : Json :=
  .record [("enabled", .bool s.enabled), ("limit", .nat s.limit.toNat),
    ("window_secs", .nat s.windowSecs.toNat), ("key_prefix", .text s.keyPrefix)]

end RateLimitSettings

namespace RedisSettings

def names : List String := ["url", "timeout_ms"]

def ofJson? (v : Json) : Option RedisSettings := do
  let fs ← fields? names v
  let url ← fs.required "url" text?
  return { url, timeoutMs := ← fs.orDefault "timeout_ms" uint64? FieldDefault.redisTimeout }

def toJson (s : RedisSettings) : Json :=
  .record [("url", .text s.url), ("timeout_ms", .nat s.timeoutMs.toNat)]

end RedisSettings

namespace Settings

def names : List String := ["trust_proxy_headers", "session", "cookie", "login_rate_limit", "redis"]

def ofJson? (v : Json) : Option Settings := do
  let fs ← fields? names v
  return {
    trustProxyHeaders := ← fs.orDefault "trust_proxy_headers" bool? false
    session := ← fs.orDefault "session" SessionSettings.ofJson? default
    cookie := ← fs.orDefault "cookie" CookieSettings.ofJson? default
    loginRateLimit := ← fs.orDefault "login_rate_limit" RateLimitSettings.ofJson? default
    redis := ← fs.orDefault "redis" (nullOr? RedisSettings.ofJson?) none }

def toJson (s : Settings) : Json :=
  .record [("trust_proxy_headers", .bool s.trustProxyHeaders), ("session", s.session.toJson),
    ("cookie", s.cookie.toJson), ("login_rate_limit", s.loginRateLimit.toJson),
    ("redis", orNull RedisSettings.toJson s.redis)]

end Settings

end Gatehouse
