import Gatehouse.Layered.Value
import Gatehouse.Settings.Codec
import Gatehouse.Text.Numeral
import Gatehouse.Text.Quoted

/-!
# Reading layered values as settings

Sources write loosely, so readers are lenient: a number may be given as text, a truth value as a number or
a word, a text as a number. What cannot be read is an error that names the value found, what was expected,
and where: the path from the root, and the source if the value has one.
-/

namespace Gatehouse.Layered

open Gatehouse.Text

/-- What stood in the wrong place, as messages show it. -/
inductive Found where
  | nil
  | boolean (b : Bool)
  | integer64 (n : Int)
  | integer (n : Int)
  | float (x : Binary64)
  | text (s : String)
  | sequence
  | map

def Found.phrase : Found → String
  | nil => "unit value"
  | boolean b => "boolean \x60" ++ (if b then "true" else "false") ++ "\x60"
  | integer64 n => "64-bit integer \x60" ++ String.ofList (decimalInt n) ++ "\x60"
  | integer n => "integer \x60" ++ String.ofList (decimalInt n) ++ "\x60"
  | float x => "floating point \x60" ++ x.pointedText ++ "\x60"
  | text s => "string " ++ quoted s
  | sequence => "sequence"
  | map => "map"

def Origin.name : Origin → String
  | file => "auth.toml"
  | environment => "the environment"

inductive DecodeError where
  /-- A value that its own reader refuses; `path` leads to it. -/
  | wrongType (found : Found) (expected : String) (path : String) (origin : Option Origin)
  /-- A value that is no record at all. -/
  | notRecord (found : Found) (record : String)
  | missingField (name : String)
  | tooShort (record : String) (size : Nat)
  | unknownVariant (type : String) (name : String)
  | notVariant (type : String)

namespace DecodeError

def message : DecodeError → String
  | wrongType found expected path origin =>
    "invalid type: " ++ found.phrase ++ ", expected " ++ expected ++
      (if path = "" then "" else " for key \x60" ++ path ++ "\x60") ++
      (match origin with
       | some o => " in " ++ o.name
       | none => "")
  | notRecord found record => "invalid type: " ++ found.phrase ++ ", expected struct " ++ record
  | missingField name => "missing field \x60" ++ name ++ "\x60"
  | tooShort record size =>
    "invalid length 0, expected struct " ++ record ++ " with " ++ toString size ++ " elements"
  | unknownVariant type name => "enum " ++ type ++ " does not have variant constructor " ++ name
  | notVariant type =>
    "value of enum " ++ type ++
      " should be represented by either string or table with exactly one key"

/-- The same error seen from one level further out. -/
def under (segment : String) : DecodeError → DecodeError
  | wrongType found expected path origin =>
    let dot := if path = "" ∨ path.toList.head? = some '[' then "" else "."
    wrongType found expected (segment ++ dot ++ path) origin
  | e => e

end DecodeError

abbrev Decoder (α : Type) := Value → Except DecodeError α

namespace Decoder

def refuse (v : Value) (found : Found) (expected : String) : Except DecodeError α :=
  .error (.wrongType found expected "" v.origin)

def uint64 : Decoder UInt64 := fun v =>
  match v with
  | .scalar _ (.integer n) =>
    if 0 ≤ n then .ok (UInt64.ofNat n.toNat)
    else refuse v (.integer64 n) "an unsigned 64 bit or less integer"
  | .scalar _ (.float x) => .ok x.toUInt64
  | .scalar _ (.boolean b) => .ok (if b then 1 else 0)
  | .scalar _ (.text s) =>
    if lower s = "true" ∨ lower s = "on" ∨ lower s = "yes" then .ok 1
    else if lower s = "false" ∨ lower s = "off" ∨ lower s = "no" then .ok 0
    else
      match natUpTo? (Nat.pow 2 64 - 1) s.toList with
      | some n => .ok (UInt64.ofNat n)
      | none => refuse v (.text s) "an integer"
  | .scalar _ .nil => refuse v .nil "an integer"
  | .array .. => refuse v .sequence "an integer"
  | .table .. => refuse v .map "an integer"

def bool : Decoder Bool := fun v =>
  match v with
  | .scalar _ (.boolean b) => .ok b
  | .scalar _ (.integer n) => .ok (n != 0)
  | .scalar _ (.float x) => .ok (!x.isZero)
  | .scalar _ (.text s) =>
    let word := lower s
    if word = "1" ∨ word = "true" ∨ word = "on" ∨ word = "yes" then .ok true
    else if word = "0" ∨ word = "false" ∨ word = "off" ∨ word = "no" then .ok false
    else refuse v (.text word) "a boolean"
  | .scalar _ .nil => refuse v .nil "a boolean"
  | .array .. => refuse v .sequence "a boolean"
  | .table .. => refuse v .map "a boolean"

def text : Decoder String := fun v =>
  match v with
  | .scalar _ (.text s) => .ok s
  | .scalar _ (.boolean b) => .ok (if b then "true" else "false")
  | .scalar _ (.integer n) => .ok (String.ofList (decimalInt n))
  | .scalar _ (.float x) => .ok x.text
  | .scalar _ .nil => refuse v .nil "a string"
  | .array .. => refuse v .sequence "a string"
  | .table .. => refuse v .map "a string"

def nilOr (read : Decoder α) : Decoder (Option α)
  | .scalar _ .nil => .ok none
  | v => (read v).map some

/-- One of a set of names in any letter case: the name, or a table with a single key. -/
def variant (type : String) (byName : String → Option α) : Decoder α := fun v =>
  let named (s : String) : Except DecodeError α :=
    match byName (lower s) with
    | some a => .ok a
    | none => .error (.unknownVariant type s)
  match v with
  | .scalar _ (.text s) => named s
  | .table _ [(key, _)] => named key
  | _ => .error (.notVariant type)

def sameSite : Decoder SameSite := variant "SameSiteSetting" SameSite.ofName?

/-- What a record holds under each of its names, and how messages name the place. -/
abbrev Fields := String → Option (String × Value)

def seated (names : List String) (items : List Value) : List (String × String × Value) :=
  (names.zip items).zipIdx.map fun p => (p.1.1, "[" ++ toString p.2 ++ "]", p.1.2)

/-- A record from a table, by name, or from a sequence, by position. -/
def fields (record : String) (names : List String) (v : Value) : Except DecodeError Fields :=
  match v with
  | .table _ es => .ok fun name => (es.lookup name).map fun w => (name, w)
  | .array _ items => .ok fun name => (seated names items).lookup name
  | .scalar _ .nil => .error (.notRecord .nil record)
  | .scalar _ (.boolean b) => .error (.notRecord (.boolean b) record)
  | .scalar _ (.integer n) => .error (.notRecord (.integer n) record)
  | .scalar _ (.float x) => .error (.notRecord (.float x) record)
  | .scalar _ (.text s) => .error (.notRecord (.text s) record)

def Fields.field? (fs : Fields) (name : String) (read : Decoder α) : Except DecodeError (Option α) :=
  match fs name with
  | none => .ok none
  | some (segment, v) => ((read v).map some).mapError (DecodeError.under segment)

def Fields.orDefault (fs : Fields) (name : String) (read : Decoder α) (default : α) :
    Except DecodeError α :=
  (fs.field? name read).map fun found => found.getD default

def sessionSettings : Decoder SessionSettings := fun v => do
  let fs ← fields "SessionSettings" SessionSettings.names v
  return {
    ttlSecs := ← fs.orDefault "ttl_secs" uint64 FieldDefault.sessionTtl
    maxAgeSecs := ← fs.orDefault "max_age_secs" uint64 FieldDefault.sessionMaxAge
    refreshBeforeSecs := ← fs.orDefault "refresh_before_secs" uint64 FieldDefault.refreshBefore
    idBytes := ← fs.orDefault "id_bytes" uint64 FieldDefault.idBytes
    csrfBytes := ← fs.orDefault "csrf_bytes" uint64 FieldDefault.csrfBytes
    keyPrefix := ← fs.orDefault "key_prefix" text FieldDefault.sessionPrefix }

def cookieSettings : Decoder CookieSettings := fun v => do
  let fs ← fields "CookieSettings" CookieSettings.names v
  return {
    name := ← fs.orDefault "name" text FieldDefault.cookieName
    path := ← fs.orDefault "path" text FieldDefault.cookiePath
    domain := ← fs.orDefault "domain" (nilOr text) none
    secure := ← fs.orDefault "secure" bool FieldDefault.cookieSecure
    sameSite := ← fs.orDefault "same_site" sameSite default }

def rateLimitSettings : Decoder RateLimitSettings := fun v => do
  let fs ← fields "RateLimitSettings" RateLimitSettings.names v
  return {
    enabled := ← fs.orDefault "enabled" bool FieldDefault.rateLimitEnabled
    limit := ← fs.orDefault "limit" uint64 FieldDefault.rateLimit
    windowSecs := ← fs.orDefault "window_secs" uint64 FieldDefault.rateWindow
    keyPrefix := ← fs.orDefault "key_prefix" text FieldDefault.ratePrefix }

/-- The address is the one field without a default. It is asked for after the others have been read, except
in a sequence, where it comes first. -/
def redisSettings : Decoder RedisSettings := fun v => do
  let fs ← fields "RedisSettings" RedisSettings.names v
  let url ← fs.field? "url" text
  let timeout ← fs.field? "timeout_ms" uint64
  match url, v with
  | some url, _ => return { url, timeoutMs := timeout.getD FieldDefault.redisTimeout }
  | none, .array .. => .error (.tooShort "RedisSettings" 2)
  | none, _ => .error (.missingField "url")

def settings : Decoder Settings := fun v => do
  let fs ← fields "AuthSettings" Settings.names v
  return {
    trustProxyHeaders := ← fs.orDefault "trust_proxy_headers" bool false
    session := ← fs.orDefault "session" sessionSettings default
    cookie := ← fs.orDefault "cookie" cookieSettings default
    loginRateLimit := ← fs.orDefault "login_rate_limit" rateLimitSettings default
    redis := ← fs.orDefault "redis" (nilOr redisSettings) none }

end Decoder

end Gatehouse.Layered
