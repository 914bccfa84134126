import Gatehouse.Layered.Decoder
import Mathlib.Tactic.Lemma

/-!
# Settings leaf by leaf

Apart from the shared store, settings are sixteen values, each with a place of its own: a field of a
section, or of the whole. If all sections are tables, what is read from layered values depends on what they
hold at these places and on nothing else. Each value is read by itself, and has its default where nothing is
found.
-/

namespace Gatehouse.Proofs
open Layered

variable {α β ε : Type} {v w root : Value} {name : String} {read : Decoder α} {a fallback : α}
  {s t : Settings}

/-- The settings that have a place of their own, other than those of the shared store. -/
inductive Leaf where
  | trustProxyHeaders
  | ttlSecs | maxAgeSecs | refreshBeforeSecs | idBytes | csrfBytes | sessionKeyPrefix
  | cookieName | cookiePath | cookieDomain | cookieSecure | cookieSameSite
  | limitEnabled | limit | windowSecs | limitKeyPrefix
deriving DecidableEq

namespace Leaf

abbrev Carrier : Leaf → Type
  | trustProxyHeaders | cookieSecure | limitEnabled => Bool
  | ttlSecs | maxAgeSecs | refreshBeforeSecs | idBytes | csrfBytes | limit | windowSecs => UInt64
  | sessionKeyPrefix | cookieName | cookiePath | limitKeyPrefix => String
  | cookieDomain => Option String
  | cookieSameSite => SameSite

def get : (l : Leaf) → Settings → l.Carrier
  | trustProxyHeaders, s => s.trustProxyHeaders
  | ttlSecs, s => s.session.ttlSecs
  | maxAgeSecs, s => s.session.maxAgeSecs
  | refreshBeforeSecs, s => s.session.refreshBeforeSecs
  | idBytes, s => s.session.idBytes
  | csrfBytes, s => s.session.csrfBytes
  | sessionKeyPrefix, s => s.session.keyPrefix
  | cookieName, s => s.cookie.name
  | cookiePath, s => s.cookie.path
  | cookieDomain, s => s.cookie.domain
  | cookieSecure, s => s.cookie.secure
  | cookieSameSite, s => s.cookie.sameSite
  | limitEnabled, s => s.loginRateLimit.enabled
  | limit, s => s.loginRateLimit.limit
  | windowSecs, s => s.loginRateLimit.windowSecs
  | limitKeyPrefix, s => s.loginRateLimit.keyPrefix

def set : (l : Leaf) → l.Carrier → Settings → Settings
  | trustProxyHeaders, a, s => { s with trustProxyHeaders := a }
  | ttlSecs, a, s => { s with session.ttlSecs := a }
  | maxAgeSecs, a, s => { s with session.maxAgeSecs := a }
  | refreshBeforeSecs, a, s => { s with session.refreshBeforeSecs := a }
  | idBytes, a, s => { s with session.idBytes := a }
  | csrfBytes, a, s => { s with session.csrfBytes := a }
  | sessionKeyPrefix, a, s => { s with session.keyPrefix := a }
  | cookieName, a, s => { s with cookie.name := a }
  | cookiePath, a, s => { s with cookie.path := a }
  | cookieDomain, a, s => { s with cookie.domain := a }
  | cookieSecure, a, s => { s with cookie.secure := a }
  | cookieSameSite, a, s => { s with cookie.sameSite := a }
  | limitEnabled, a, s => { s with loginRateLimit.enabled := a }
  | limit, a, s => { s with loginRateLimit.limit := a }
  | windowSecs, a, s => { s with loginRateLimit.windowSecs := a }
  | limitKeyPrefix, a, s => { s with loginRateLimit.keyPrefix := a }

def decoder : (l : Leaf) → Decoder l.Carrier
  | trustProxyHeaders | cookieSecure | limitEnabled => Decoder.bool
  | ttlSecs | maxAgeSecs | refreshBeforeSecs | idBytes | csrfBytes | limit | windowSecs => Decoder.uint64
  | sessionKeyPrefix | cookieName | cookiePath | limitKeyPrefix => Decoder.text
  | cookieDomain => Decoder.nilOr Decoder.text
  | cookieSameSite => Decoder.sameSite

/-- The section of a setting. -/
def home? : Leaf → Option String
  | trustProxyHeaders => none
  | ttlSecs | maxAgeSecs | refreshBeforeSecs | idBytes | csrfBytes | sessionKeyPrefix => some "session"
  | cookieName | cookiePath | cookieDomain | cookieSecure | cookieSameSite => some "cookie"
  | limitEnabled | limit | windowSecs | limitKeyPrefix => some "login_rate_limit"

/-- The name of a setting in its section. -/
def field : Leaf → String
  | trustProxyHeaders => "trust_proxy_headers"
  | ttlSecs => "ttl_secs"
  | maxAgeSecs => "max_age_secs"
  | refreshBeforeSecs => "refresh_before_secs"
  | idBytes => "id_bytes"
  | csrfBytes => "csrf_bytes"
  | cookieName => "name"
  | cookiePath => "path"
  | cookieDomain => "domain"
  | cookieSecure => "secure"
  | cookieSameSite => "same_site"
  | limitEnabled => "enabled"
  | limit => "limit"
  | windowSecs => "window_secs"
  | sessionKeyPrefix | limitKeyPrefix => "key_prefix"

lemma get_set (l : Leaf) (a : l.Carrier) (s : Settings) : l.get (l.set a s) = a := by
  cases l <;> rfl

lemma get_set_of_ne {l l' : Leaf} (h : l' ≠ l) (a : l.Carrier) (s : Settings) :
    l'.get (l.set a s) = l'.get s := by
  cases l <;> cases l' <;> first | rfl | exact absurd rfl h

lemma redis_set (l : Leaf) (a : l.Carrier) (s : Settings) : (l.set a s).redis = s.redis := by
  cases l <;> rfl

lemma eq_of_place {l l' : Leaf} (hhome : l.home? = l'.home?) (hfield : l.field = l'.field) : l = l' := by
  cases l <;> cases l' <;>
    first | rfl | exact absurd hhome (by decide) | exact absurd hfield (by decide)

/-- Settings are made of their leaves and the shared store. -/
def gathered (value : (l : Leaf) → l.Carrier) (redis : Option RedisSettings) : Settings where
  trustProxyHeaders := value trustProxyHeaders
  session := ⟨value ttlSecs, value maxAgeSecs, value refreshBeforeSecs, value idBytes, value csrfBytes,
    value sessionKeyPrefix⟩
  cookie := ⟨value cookieName, value cookiePath, value cookieDomain, value cookieSecure, value cookieSameSite⟩
  loginRateLimit := ⟨value limitEnabled, value limit, value windowSecs, value limitKeyPrefix⟩
  redis := redis

lemma eq_of_leaves (hleaf : ∀ l : Leaf, l.get s = l.get t) (hredis : s.redis = t.redis) : s = t := by
  calc s = gathered (fun l => l.get s) s.redis := rfl
    _ = gathered (fun l => l.get t) t.redis := by rw [funext hleaf, hredis]
    _ = t := rfl

end Leaf

def sections : List String := ["session", "cookie", "login_rate_limit"]

lemma mem_sections {l : Leaf} {home : String} (h : l.home? = some home) : home ∈ sections := by
  cases l <;> cases h <;> decide

/-- What a table holds under a name is read as a value, which is the default if there is nothing. -/
def Reads (v : Value) (name : String) (read : Decoder α) (default a : α) : Prop :=
  match v.get? name with
  | none => a = default
  | some w => read w = .ok a

def tableFields (v : Value) : Decoder.Fields := fun name => (v.get? name).map fun w => (name, w)

lemma bind_eq_ok_iff {x : Except ε α} {f : α → Except ε β} {b : β} :
    x >>= f = .ok b ↔ ∃ a, x = .ok a ∧ f a = .ok b := by
  cases x with
  | error e =>
    refine iff_of_false (fun h => by cases h) ?_
    rintro ⟨a, h, _⟩
    cases h
  | ok a =>
    constructor
    · exact fun h => ⟨a, rfl, h⟩
    · rintro ⟨a', h, hf⟩
      cases h
      exact hf

lemma orDefault_eq_ok_iff :
    (tableFields v).orDefault name read fallback = .ok a ↔ Reads v name read fallback a := by
  unfold Decoder.Fields.orDefault Decoder.Fields.field? tableFields Reads
  cases v.get? name with
  | none => exact ⟨fun h => (Except.ok.inj h).symm, fun h => congrArg Except.ok (Eq.symm h)⟩
  | some w =>
    show (((read w).map some).mapError (DecodeError.under name)).map (fun found => found.getD fallback) =
      _ ↔ read w = _
    cases read w with
    | error e => exact iff_of_false (fun h => by cases h) fun h => by cases h
    | ok b => exact ⟨fun h => h, fun h => h⟩

lemma fields_of_isTable (hv : v.isTable = true) (record : String) (names : List String) :
    Decoder.fields record names v = .ok (tableFields v) := by
  cases v with
  | scalar _ _ => cases hv
  | array _ _ => cases hv
  | table _ _ => rfl

lemma sessionSettings_eq_ok_iff {session : SessionSettings} (hv : v.isTable = true) :
    Decoder.sessionSettings v = .ok session ↔
      Reads v "ttl_secs" Decoder.uint64 FieldDefault.sessionTtl session.ttlSecs ∧
      Reads v "max_age_secs" Decoder.uint64 FieldDefault.sessionMaxAge session.maxAgeSecs ∧
      Reads v "refresh_before_secs" Decoder.uint64 FieldDefault.refreshBefore session.refreshBeforeSecs ∧
      Reads v "id_bytes" Decoder.uint64 FieldDefault.idBytes session.idBytes ∧
      Reads v "csrf_bytes" Decoder.uint64 FieldDefault.csrfBytes session.csrfBytes ∧
      Reads v "key_prefix" Decoder.text FieldDefault.sessionPrefix session.keyPrefix := by
  unfold Decoder.sessionSettings
  simp only [fields_of_isTable hv, bind_eq_ok_iff, orDefault_eq_ok_iff, Except.ok.injEq, exists_eq_left',
    pure, Except.pure]
  constructor
  · rintro ⟨_, httl, _, hage, _, hrefresh, _, hid, _, hcsrf, _, hprefix, rfl⟩
    exact ⟨httl, hage, hrefresh, hid, hcsrf, hprefix⟩
  · rintro ⟨httl, hage, hrefresh, hid, hcsrf, hprefix⟩
    exact ⟨_, httl, _, hage, _, hrefresh, _, hid, _, hcsrf, _, hprefix, rfl⟩

lemma cookieSettings_eq_ok_iff {cookie : CookieSettings} (hv : v.isTable = true) :
    Decoder.cookieSettings v = .ok cookie ↔
      Reads v "name" Decoder.text FieldDefault.cookieName cookie.name ∧
      Reads v "path" Decoder.text FieldDefault.cookiePath cookie.path ∧
      Reads v "domain" (Decoder.nilOr Decoder.text) none cookie.domain ∧
      Reads v "secure" Decoder.bool FieldDefault.cookieSecure cookie.secure ∧
      Reads v "same_site" Decoder.sameSite default cookie.sameSite := by
  unfold Decoder.cookieSettings
  simp only [fields_of_isTable hv, bind_eq_ok_iff, orDefault_eq_ok_iff, Except.ok.injEq, exists_eq_left',
    pure, Except.pure]
  constructor
  · rintro ⟨_, hname, _, hpath, _, hdomain, _, hsecure, _, hsite, rfl⟩
    exact ⟨hname, hpath, hdomain, hsecure, hsite⟩
  · rintro ⟨hname, hpath, hdomain, hsecure, hsite⟩
    exact ⟨_, hname, _, hpath, _, hdomain, _, hsecure, _, hsite, rfl⟩

lemma rateLimitSettings_eq_ok_iff {limit : RateLimitSettings} (hv : v.isTable = true) :
    Decoder.rateLimitSettings v = .ok limit ↔
      Reads v "enabled" Decoder.bool FieldDefault.rateLimitEnabled limit.enabled ∧
      Reads v "limit" Decoder.uint64 FieldDefault.rateLimit limit.limit ∧
      Reads v "window_secs" Decoder.uint64 FieldDefault.rateWindow limit.windowSecs ∧
      Reads v "key_prefix" Decoder.text FieldDefault.ratePrefix limit.keyPrefix := by
  unfold Decoder.rateLimitSettings
  simp only [fields_of_isTable hv, bind_eq_ok_iff, orDefault_eq_ok_iff, Except.ok.injEq, exists_eq_left',
    pure, Except.pure]
  constructor
  · rintro ⟨_, henabled, _, hlimit, _, hwindow, _, hprefix, rfl⟩
    exact ⟨henabled, hlimit, hwindow, hprefix⟩
  · rintro ⟨henabled, hlimit, hwindow, hprefix⟩
    exact ⟨_, henabled, _, hlimit, _, hwindow, _, hprefix, rfl⟩

/-- The value in the place of a leaf. -/
def valueAt? (root : Value) (l : Leaf) : Option Value :=
  match l.home? with
  | none => root.get? l.field
  | some home => (root.get? home).bind fun v => v.get? l.field

/-- What is in the place of a leaf is read as a value, which is the default if the place is empty. -/
def ReadsLeaf (root : Value) (l : Leaf) (a : l.Carrier) : Prop :=
  match valueAt? root l with
  | none => a = l.get {}
  | some v => l.decoder v = .ok a

/-- The sections that are there are tables. -/
def Tabular (root : Value) : Prop := ∀ home ∈ sections, ∀ v, root.get? home = some v → v.isTable = true

lemma reads_session (h : Tabular root) :
    Reads root "session" Decoder.sessionSettings default s.session ↔
      ReadsLeaf root .ttlSecs s.session.ttlSecs ∧ ReadsLeaf root .maxAgeSecs s.session.maxAgeSecs ∧
      ReadsLeaf root .refreshBeforeSecs s.session.refreshBeforeSecs ∧
      ReadsLeaf root .idBytes s.session.idBytes ∧
      ReadsLeaf root .csrfBytes s.session.csrfBytes ∧
      ReadsLeaf root .sessionKeyPrefix s.session.keyPrefix := by
  obtain ⟨_, ⟨_, _, _, _, _, _⟩, _, _, _⟩ := s
  unfold ReadsLeaf valueAt? Reads
  simp only [Leaf.home?, Leaf.field]
  cases hv : root.get? "session" with
  | none =>
    rw [SessionSettings.default_eq]
    exact iff_of_eq (SessionSettings.mk.injEq ..)
  | some v => exact sessionSettings_eq_ok_iff (h "session" (by decide) v hv)

lemma reads_cookie (h : Tabular root) :
    Reads root "cookie" Decoder.cookieSettings default s.cookie ↔
      ReadsLeaf root .cookieName s.cookie.name ∧ ReadsLeaf root .cookiePath s.cookie.path ∧
      ReadsLeaf root .cookieDomain s.cookie.domain ∧ ReadsLeaf root .cookieSecure s.cookie.secure ∧
      ReadsLeaf root .cookieSameSite s.cookie.sameSite := by
  obtain ⟨_, _, ⟨_, _, _, _, _⟩, _, _⟩ := s
  unfold ReadsLeaf valueAt? Reads
  simp only [Leaf.home?, Leaf.field]
  cases hv : root.get? "cookie" with
  | none =>
    rw [CookieSettings.default_eq]
    exact iff_of_eq (CookieSettings.mk.injEq ..)
  | some v => exact cookieSettings_eq_ok_iff (h "cookie" (by decide) v hv)

lemma reads_rateLimit (h : Tabular root) :
    Reads root "login_rate_limit" Decoder.rateLimitSettings default s.loginRateLimit ↔
      ReadsLeaf root .limitEnabled s.loginRateLimit.enabled ∧ ReadsLeaf root .limit s.loginRateLimit.limit ∧
      ReadsLeaf root .windowSecs s.loginRateLimit.windowSecs ∧
      ReadsLeaf root .limitKeyPrefix s.loginRateLimit.keyPrefix := by
  obtain ⟨_, _, _, ⟨_, _, _, _⟩, _⟩ := s
  unfold ReadsLeaf valueAt? Reads
  simp only [Leaf.home?, Leaf.field]
  cases hv : root.get? "login_rate_limit" with
  | none =>
    rw [RateLimitSettings.default_eq]
    exact iff_of_eq (RateLimitSettings.mk.injEq ..)
  | some v => exact rateLimitSettings_eq_ok_iff (h "login_rate_limit" (by decide) v hv)

/-- Settings are read from tables place by place. -/
lemma settings_eq_ok_iff (hroot : root.isTable = true) (h : Tabular root) :
    Decoder.settings root = .ok s ↔
      (∀ l : Leaf, ReadsLeaf root l (l.get s)) ∧
        Reads root "redis" (Decoder.nilOr Decoder.redisSettings) none s.redis := by
  have hsections : Decoder.settings root = .ok s ↔
      Reads root "trust_proxy_headers" Decoder.bool false s.trustProxyHeaders ∧
      Reads root "session" Decoder.sessionSettings default s.session ∧
      Reads root "cookie" Decoder.cookieSettings default s.cookie ∧
      Reads root "login_rate_limit" Decoder.rateLimitSettings default s.loginRateLimit ∧
      Reads root "redis" (Decoder.nilOr Decoder.redisSettings) none s.redis := by
    unfold Decoder.settings
    simp only [fields_of_isTable hroot, bind_eq_ok_iff, orDefault_eq_ok_iff, Except.ok.injEq,
      exists_eq_left', pure, Except.pure]
    constructor
    · rintro ⟨_, htrust, _, hsession, _, hcookie, _, hlimit, _, hredis, rfl⟩
      exact ⟨htrust, hsession, hcookie, hlimit, hredis⟩
    · rintro ⟨htrust, hsession, hcookie, hlimit, hredis⟩
      exact ⟨_, htrust, _, hsession, _, hcookie, _, hlimit, _, hredis, rfl⟩
  rw [hsections, reads_session h, reads_cookie h, reads_rateLimit h]
  constructor
  · rintro ⟨htrust, ⟨httl, hage, hrefresh, hid, hcsrf, hprefix⟩, ⟨hname, hpath, hdomain, hsecure, hsite⟩,
      ⟨henabled, hlimit, hwindow, hlimitPrefix⟩, hredis⟩
    refine ⟨fun l => ?_, hredis⟩
    cases l <;> assumption
  · rintro ⟨hleaf, hredis⟩
    exact ⟨hleaf .trustProxyHeaders,
      ⟨hleaf .ttlSecs, hleaf .maxAgeSecs, hleaf .refreshBeforeSecs, hleaf .idBytes, hleaf .csrfBytes,
        hleaf .sessionKeyPrefix⟩,
      ⟨hleaf .cookieName, hleaf .cookiePath, hleaf .cookieDomain, hleaf .cookieSecure, hleaf .cookieSameSite⟩,
      ⟨hleaf .limitEnabled, hleaf .limit, hleaf .windowSecs, hleaf .limitKeyPrefix⟩, hredis⟩

end Gatehouse.Proofs
