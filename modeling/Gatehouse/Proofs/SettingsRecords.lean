import Gatehouse.Proofs.JsonRecords
import Gatehouse.Proofs.WholeNumerals
import Gatehouse.Settings.Codec
import Mathlib.Data.Nat.Digits.Defs

/-!
# Settings with fields left out

Settings may be written with any of their fields left out, in any order and with other members among them.
They are then read as the settings that have the defaults in the place of what is missing, and nothing else
changes. It makes no difference whether a section is missing or empty: the defaults of the whole are made of
the defaults of the fields.
-/

namespace Gatehouse.Proofs
open Json Text

variable {α : Type} {omitted : List String → Bool} {path : List String} {v w : Json}
  {members : List (String × Json)} {name : String} {fs : Fields} {s : Settings}

/-- The fields of the record at a path into the settings. -/
def namesAt : List String → List String
  | [] => Settings.names
  | ["session"] => SessionSettings.names
  | ["cookie"] => CookieSettings.names
  | ["login_rate_limit"] => RateLimitSettings.names
  | ["redis"] => RedisSettings.names
  | _ => []

/-- The second value is what becomes of the first, at a path into the settings: of a record some fields are
omitted, the others are loosened in turn and put in any order, and members with any other names and any
values come in. What is no record stays as it is. -/
inductive Loosened (omitted : List String → Bool) : List String → Json → Json → Prop where
  | leaf {path : List String} {v : Json} (hleaf : ∀ members, v ≠ .obj members) : Loosened omitted path v v
  | record {path : List String} {members all : List (String × Json)} (value : String × Json → Json)
      (others : List (String × Json))
      (hvalue : ∀ m ∈ members, omitted (path ++ [m.1]) = false →
        Loosened omitted (path ++ [m.1]) m.2 (value m))
      (hothers : ∀ m ∈ others, m.1 ∉ namesAt path)
      (hall : all.Perm
        (((members.filter fun m => !omitted (path ++ [m.1])).map fun m => (m.1, value m)) ++ others)) :
      Loosened omitted path (.record members) (.record all)

/-- A setting, or its default if it is omitted. -/
def filled (isOmitted : Bool) (default value : α) : α := if isOmitted then default else value

def filledSession (omitted : List String → Bool) (s : SessionSettings) : SessionSettings where
  ttlSecs := filled (omitted ["session", "ttl_secs"]) ({} : Settings).session.ttlSecs s.ttlSecs
  maxAgeSecs := filled (omitted ["session", "max_age_secs"]) ({} : Settings).session.maxAgeSecs s.maxAgeSecs
  refreshBeforeSecs :=
    filled (omitted ["session", "refresh_before_secs"])
      ({} : Settings).session.refreshBeforeSecs s.refreshBeforeSecs
  idBytes := filled (omitted ["session", "id_bytes"]) ({} : Settings).session.idBytes s.idBytes
  csrfBytes := filled (omitted ["session", "csrf_bytes"]) ({} : Settings).session.csrfBytes s.csrfBytes
  keyPrefix := filled (omitted ["session", "key_prefix"]) ({} : Settings).session.keyPrefix s.keyPrefix

def filledCookie (omitted : List String → Bool) (s : CookieSettings) : CookieSettings where
  name := filled (omitted ["cookie", "name"]) ({} : Settings).cookie.name s.name
  path := filled (omitted ["cookie", "path"]) ({} : Settings).cookie.path s.path
  domain := filled (omitted ["cookie", "domain"]) ({} : Settings).cookie.domain s.domain
  secure := filled (omitted ["cookie", "secure"]) ({} : Settings).cookie.secure s.secure
  sameSite := filled (omitted ["cookie", "same_site"]) ({} : Settings).cookie.sameSite s.sameSite

def filledRateLimit (omitted : List String → Bool) (s : RateLimitSettings) : RateLimitSettings where
  enabled := filled (omitted ["login_rate_limit", "enabled"]) ({} : Settings).loginRateLimit.enabled s.enabled
  limit := filled (omitted ["login_rate_limit", "limit"]) ({} : Settings).loginRateLimit.limit s.limit
  windowSecs := filled (omitted ["login_rate_limit", "window_secs"])
    ({} : Settings).loginRateLimit.windowSecs s.windowSecs
  keyPrefix := filled (omitted ["login_rate_limit", "key_prefix"])
    ({} : Settings).loginRateLimit.keyPrefix s.keyPrefix

/-- The address of a server has no default. -/
def filledRedis (omitted : List String → Bool) (s : RedisSettings) : RedisSettings where
  url := s.url
  timeoutMs :=
    filled (omitted ["redis", "timeout_ms"]) ({ url := s.url } : RedisSettings).timeoutMs s.timeoutMs

/-- The settings with the defaults in the place of what is omitted. -/
def filledSettings (omitted : List String → Bool) (s : Settings) : Settings where
  trustProxyHeaders :=
    filled (omitted ["trust_proxy_headers"]) ({} : Settings).trustProxyHeaders s.trustProxyHeaders
  session := filled (omitted ["session"]) ({} : Settings).session (filledSession omitted s.session)
  cookie := filled (omitted ["cookie"]) ({} : Settings).cookie (filledCookie omitted s.cookie)
  loginRateLimit :=
    filled (omitted ["login_rate_limit"]) ({} : Settings).loginRateLimit
      (filledRateLimit omitted s.loginRateLimit)
  redis := filled (omitted ["redis"]) ({} : Settings).redis (s.redis.map (filledRedis omitted))

lemma record_inj {members' : List (String × Json)} (h : Json.record members = .record members') :
    members = members' := by
  refine List.map_injective_iff.2 (fun m m' hm => ?_) (Json.obj.inj h)
  rw [Prod.mk.injEq, Option.some.injEq, String.toList_inj] at hm
  exact Prod.ext hm.1 hm.2

lemma eq_of_loosened (h : Loosened omitted path v w) (hleaf : ∀ members, v ≠ .obj members) : w = v := by
  cases h with
  | leaf _ => rfl
  | record value others hvalue hothers hall => exact absurd rfl (hleaf _)

/-- What the fields of a loosened record hold: nothing if they are omitted, and their loosened values if
not. -/
def Held (omitted : List String → Bool) (path : List String) (fs : Fields) (m : String × Json) : Prop :=
  if omitted (path ++ [m.1]) then fs m.1 = none
  else ∃ v, fs m.1 = some v ∧ Loosened omitted (path ++ [m.1]) m.2 v

lemma namesAt_nodup (path : List String) : (namesAt path).Nodup := by
  unfold namesAt
  split <;> decide

lemma held_of_loosened (h : Loosened omitted path v w) (hv : v = .record members)
    (hnames : members.map Prod.fst = namesAt path) :
    ∃ fs, fields? (namesAt path) w = some fs ∧ ∀ m ∈ members, Held omitted path fs m := by
  cases h with
  | leaf hleaf => exact absurd hv (hleaf _)
  | @record _ members' all value others hvalue hothers hall =>
    obtain rfl : members' = members := record_inj hv
    have hkept : ((members'.filter fun m => !omitted (path ++ [m.1])).map fun m => (m.1, value m)).map
        Prod.fst |>.Nodup := by
      rw [List.map_map]
      refine List.Nodup.sublist (List.filter_sublist.map _) ?_
      exact hnames ▸ namesAt_nodup path
    have hcount : ∀ name ∈ namesAt path, (all.countP fun m => m.1 = name) ≤ 1 := by
      intro name hname
      have hnone : (others.countP fun m => m.1 = name) = 0 := by
        refine List.countP_eq_zero.2 fun m hm heq => hothers m hm ?_
        rwa [of_decide_eq_true heq]
      rw [hall.countP_eq, List.countP_append, hnone]
      exact countP_le_one hkept name
    have hknown : ∀ m ∈ members', m.1 ∈ namesAt path := fun m hm => hnames ▸ List.mem_map_of_mem hm
    refine ⟨_, if_pos (membersFit_of_once hcount), fun m hm => ?_⟩
    unfold Held
    cases homitted : omitted (path ++ [m.1]) with
    | false =>
      have hmem : (m.1, value m) ∈ all := by
        refine hall.mem_iff.2 (List.mem_append_left _ (List.mem_map.2 ⟨m, List.mem_filter.2 ⟨hm, ?_⟩, rfl⟩))
        rw [homitted]
        rfl
      exact ⟨value m, memberNamed_of_once (hcount m.1 (hknown m hm)) hmem, hvalue m hm homitted⟩
    | true =>
      refine memberNamed_of_not_mem fun hmem => ?_
      obtain ⟨n, hn, hname⟩ := List.mem_map.1 hmem
      rcases List.mem_append.1 (hall.mem_iff.1 hn) with hkept | hother
      · obtain ⟨m', hm', rfl⟩ := List.mem_map.1 hkept
        have hshown := (List.mem_filter.1 hm').2
        rw [show m'.1 = m.1 from hname, homitted] at hshown
        cases hshown
      · refine hothers n hother ?_
        rw [hname]
        exact hknown m hm

/-- A field that is omitted has its default, and one that is not is read from what became of its value. -/
lemma orDefault_of_held {read : Json → Option α} {a default : α} (h : Held omitted path fs (name, v))
    (hread : ∀ w, Loosened omitted (path ++ [name]) v w → read w = some a) :
    fs.orDefault name read default = some (filled (omitted (path ++ [name])) default a) := by
  unfold Held at h
  unfold Fields.orDefault filled
  cases homitted : omitted (path ++ [name]) with
  | false =>
    rw [homitted] at h
    obtain ⟨w, hw, hloosened⟩ := h
    rw [hw]
    exact hread w hloosened
  | true =>
    rw [homitted] at h
    rw [show fs name = none from h]
    rfl

lemma uint64?_nat (n : UInt64) : uint64? (.nat n.toNat) = some n := by
  show (digits? (decimal n.toNat)).bind _ = _
  rw [digits?_decimal, Option.bind_some, if_pos n.toNat_lt, UInt64.ofNat_toNat]

lemma uint64?_loosened {n : UInt64} (h : Loosened omitted path (.nat n.toNat) w) : uint64? w = some n := by
  rw [eq_of_loosened h fun _ => Json.noConfusion]
  exact uint64?_nat n

lemma text?_loosened {t : String} (h : Loosened omitted path (.text t) w) : text? w = some t := by
  rw [eq_of_loosened h fun _ => Json.noConfusion]
  exact text?_text t

lemma bool?_loosened {b : Bool} (h : Loosened omitted path (.bool b) w) : bool? w = some b := by
  rw [eq_of_loosened h fun _ => Json.noConfusion]
  rfl

lemma sameSite_loosened {site : SameSite} (h : Loosened omitted path site.toJson w) :
    SameSite.ofJson? w = some site := by
  rw [eq_of_loosened h fun _ => Json.noConfusion]
  show SameSite.ofName? (String.ofList site.name.toList) = some site
  rw [String.ofList_toList]
  exact SameSite.ofName?_name site

lemma domain_loosened {domain : Option String} (h : Loosened omitted path (orNull Json.text domain) w) :
    nullOr? text? w = some domain := by
  cases domain with
  | none =>
    rw [eq_of_loosened h fun _ => Json.noConfusion]
    rfl
  | some t =>
    rw [eq_of_loosened h fun _ => Json.noConfusion]
    exact congrArg (Option.map some) (text?_text t)

lemma session_filled {s : SessionSettings} (h : Loosened omitted ["session"] s.toJson w) :
    SessionSettings.ofJson? w = some (filledSession omitted s) := by
  obtain ⟨fs, hfields, hheld⟩ := held_of_loosened h rfl rfl
  simp only [List.forall_mem_cons] at hheld
  obtain ⟨httl, hage, hrefresh, hid, hcsrf, hprefix, -⟩ := hheld
  unfold SessionSettings.ofJson?
  rw [show fields? SessionSettings.names w = some fs from hfields]
  simp only [Option.bind_eq_bind, Option.bind_some, orDefault_of_held httl fun w => uint64?_loosened,
    orDefault_of_held hage fun w => uint64?_loosened, orDefault_of_held hrefresh fun w => uint64?_loosened,
    orDefault_of_held hid fun w => uint64?_loosened, orDefault_of_held hcsrf fun w => uint64?_loosened,
    orDefault_of_held hprefix fun w => text?_loosened]
  rfl

lemma cookie_filled {s : CookieSettings} (h : Loosened omitted ["cookie"] s.toJson w) :
    CookieSettings.ofJson? w = some (filledCookie omitted s) := by
  obtain ⟨fs, hfields, hheld⟩ := held_of_loosened h rfl rfl
  simp only [List.forall_mem_cons] at hheld
  obtain ⟨hname, hpath, hdomain, hsecure, hsite, -⟩ := hheld
  unfold CookieSettings.ofJson?
  rw [show fields? CookieSettings.names w = some fs from hfields]
  simp only [Option.bind_eq_bind, Option.bind_some, orDefault_of_held hname fun w => text?_loosened,
    orDefault_of_held hpath fun w => text?_loosened, orDefault_of_held hdomain fun w => domain_loosened,
    orDefault_of_held hsecure fun w => bool?_loosened, orDefault_of_held hsite fun w => sameSite_loosened]
  rfl

lemma rateLimit_filled {s : RateLimitSettings} (h : Loosened omitted ["login_rate_limit"] s.toJson w) :
    RateLimitSettings.ofJson? w = some (filledRateLimit omitted s) := by
  obtain ⟨fs, hfields, hheld⟩ := held_of_loosened h rfl rfl
  simp only [List.forall_mem_cons] at hheld
  obtain ⟨henabled, hlimit, hwindow, hprefix, -⟩ := hheld
  unfold RateLimitSettings.ofJson?
  rw [show fields? RateLimitSettings.names w = some fs from hfields]
  simp only [Option.bind_eq_bind, Option.bind_some, orDefault_of_held henabled fun w => bool?_loosened,
    orDefault_of_held hlimit fun w => uint64?_loosened, orDefault_of_held hwindow fun w => uint64?_loosened,
    orDefault_of_held hprefix fun w => text?_loosened]
  rfl

lemma redis_filled {s : RedisSettings} (hurl : omitted ["redis", "url"] = false)
    (h : Loosened omitted ["redis"] s.toJson w) : RedisSettings.ofJson? w = some (filledRedis omitted s) := by
  obtain ⟨fs, hfields, hheld⟩ := held_of_loosened h rfl rfl
  simp only [List.forall_mem_cons] at hheld
  obtain ⟨hheldUrl, htimeout, -⟩ := hheld
  unfold Held at hheldUrl
  rw [show (["redis"] ++ ["url"] : List String) = ["redis", "url"] from rfl, hurl] at hheldUrl
  obtain ⟨v, hv, hloosened⟩ := hheldUrl
  unfold RedisSettings.ofJson?
  rw [show fields? RedisSettings.names w = some fs from hfields]
  simp only [Option.bind_eq_bind, Option.bind_some, Fields.required, hv, text?_loosened hloosened,
    orDefault_of_held htimeout fun w => uint64?_loosened]
  rfl

lemma redisOrNull_filled {redis : Option RedisSettings} (hurl : omitted ["redis", "url"] = false)
    (h : Loosened omitted ["redis"] (orNull RedisSettings.toJson redis) w) :
    nullOr? RedisSettings.ofJson? w = some (redis.map (filledRedis omitted)) := by
  cases redis with
  | none =>
    rw [eq_of_loosened h fun _ => Json.noConfusion]
    rfl
  | some r =>
    have hfilled := redis_filled hurl h
    cases w with
    | null => cases hfilled
    | _ => exact congrArg (Option.map some) hfilled

/-- The defaults of the whole are made of the defaults of its sections, and those of the defaults of their
fields. -/
lemma settings_filled (hurl : omitted ["redis", "url"] = false) (h : Loosened omitted [] s.toJson w) :
    Settings.ofJson? w = some (filledSettings omitted s) := by
  obtain ⟨fs, hfields, hheld⟩ := held_of_loosened h rfl rfl
  simp only [List.forall_mem_cons] at hheld
  obtain ⟨htrust, hsession, hcookie, hlimit, hredis, -⟩ := hheld
  unfold Settings.ofJson?
  rw [show fields? Settings.names w = some fs from hfields]
  simp only [Option.bind_eq_bind, Option.bind_some, orDefault_of_held htrust fun w => bool?_loosened,
    orDefault_of_held hsession fun w => session_filled, orDefault_of_held hcookie fun w => cookie_filled,
    orDefault_of_held hlimit fun w => rateLimit_filled,
    orDefault_of_held hredis fun w => redisOrNull_filled hurl]
  rfl

/-! ### Texts of settings -/

lemma isNumber_decimal (n : Nat) : isNumber (decimal n) = true := by
  rcases Nat.eq_zero_or_pos n with rfl | hpos
  · rfl
  · obtain ⟨d, ds, hdigits, hd⟩ := decimal_of_pos hpos
    have hall : ∀ c ∈ d :: ds, isDigit c = true := fun c hc => isDigit_of_mem_decimal (hdigits ▸ hc)
    have hrest : dropDigits ds = [] :=
      List.dropWhile_eq_nil_iff.2 fun c hc => hall c (List.mem_cons_of_mem _ hc)
    have hunsigned : isUnsignedNumber (d :: ds) = true := by
      unfold isUnsignedNumber
      split
      · rename_i heq
        exact absurd (List.cons.inj heq).1 hd
      · rename_i heq
        obtain ⟨rfl, rfl⟩ := List.cons.inj heq
        rw [hall d List.mem_cons_self, hrest]
        rfl
      · rename_i heq
        cases heq
    rw [hdigits]
    unfold isNumber
    split
    · rename_i heq
      have hminus := hall '-' ((List.cons.inj heq).1 ▸ List.mem_cons_self)
      cases hminus
    · exact hunsigned

lemma spelled_nat (n : Nat) : Spelled (.nat n) := .num (isNumber_decimal n)

lemma spelled_settings (s : Settings) : Spelled s.toJson := by
  have hsession : Spelled s.session.toJson := by
    refine spelled_record ?_
    simp only [List.forall_mem_cons]
    exact ⟨spelled_nat _, spelled_nat _, spelled_nat _, spelled_nat _, spelled_nat _, spelled_text _,
      fun m hm => absurd hm List.not_mem_nil⟩
  have hdomain : Spelled (orNull Json.text s.cookie.domain) := by
    cases s.cookie.domain with
    | none => exact .null
    | some domain => exact spelled_text domain
  have hcookie : Spelled s.cookie.toJson := by
    refine spelled_record ?_
    simp only [List.forall_mem_cons]
    exact ⟨spelled_text _, spelled_text _, hdomain, .bool _, spelled_text _,
      fun m hm => absurd hm List.not_mem_nil⟩
  have hlimit : Spelled s.loginRateLimit.toJson := by
    refine spelled_record ?_
    simp only [List.forall_mem_cons]
    exact ⟨.bool _, spelled_nat _, spelled_nat _, spelled_text _, fun m hm => absurd hm List.not_mem_nil⟩
  have hredis : Spelled (orNull RedisSettings.toJson s.redis) := by
    cases s.redis with
    | none => exact .null
    | some redis =>
      refine spelled_record ?_
      simp only [List.forall_mem_cons]
      exact ⟨spelled_text _, spelled_nat _, fun m hm => absurd hm List.not_mem_nil⟩
  refine spelled_record ?_
  simp only [List.forall_mem_cons]
  exact ⟨.bool _, hsession, hcookie, hlimit, hredis, fun m hm => absurd hm List.not_mem_nil⟩

def nothing : List String → Bool := fun _ => false

/-- A section that is kept without its fields. -/
def emptied (name : String) (omitted : List String → Bool) : List String → Bool := fun path =>
  path != [name] && (path.head? == some name || omitted path)

lemma loosened_self (h : Spelled v) (path : List String) : Loosened nothing path v v := by
  induction h generalizing path with
  | @obj members hkeys _ ih =>
    let named := members.map fun m => (String.ofList (m.1.getD []), m.2)
    have hnamed : Json.obj members = .record named := by
      refine congrArg Json.obj ?_
      rw [List.map_map]
      refine ((List.map_congr_left fun m hm => ?_).trans (List.map_id members)).symm
      obtain ⟨key, hkey⟩ := Option.isSome_iff_exists.1 (hkeys m hm)
      exact Prod.ext (by simp [hkey]) rfl
    rw [hnamed]
    refine .record Prod.snd [] (fun m hm _ => ?_) (fun m hm => absurd hm List.not_mem_nil) ?_
    · obtain ⟨m', hm', rfl⟩ := List.mem_map.1 hm
      exact ih m' hm' _
    · simp [nothing]
  | _ => exact .leaf fun _ => Json.noConfusion

lemma filledSettings_nothing (s : Settings) : filledSettings nothing s = s := by
  obtain ⟨trust, session, cookie, limit, redis⟩ := s
  cases redis <;> rfl

/-- The sections of which every field has a default. -/
def plainSections : List String := ["session", "cookie", "login_rate_limit"]

lemma emptied_elsewhere {first : String} (rest : List String) (h : first ≠ name) :
    emptied name omitted (first :: rest) = omitted (first :: rest) := by
  have hne : (first :: rest == [name]) = false := beq_eq_false_iff_ne.2 fun heq => h (List.cons.inj heq).1
  simp [emptied, bne, hne, h]

lemma filledSettings_emptied (hname : name ∈ plainSections) (h : omitted [name] = true) (s : Settings) :
    filledSettings (emptied name omitted) s = filledSettings omitted s := by
  have hredis : filledRedis (emptied name omitted) = filledRedis omitted := by
    have hne : "redis" ≠ name := by
      rintro rfl
      exact absurd hname (by decide)
    funext redis
    unfold filledRedis
    rw [emptied_elsewhere _ hne]
  unfold filledSettings
  rw [hredis]
  simp only [plainSections, List.mem_cons, List.not_mem_nil, or_false] at hname
  rcases hname with rfl | rfl | rfl
  · simp [filledSession, filledCookie, filledRateLimit, filled, emptied, h]
  · simp [filledSession, filledCookie, filledRateLimit, filled, emptied, h]
  · simp [filledSession, filledCookie, filledRateLimit, filled, emptied, h]

/-- Settings that are written with any fields left out but the address of a server, in any order and with
anything else among them, are read as the settings with the defaults in the place of what is missing,
whatever the text looks like that spells them. An empty section is as good as none. With nothing left out
the settings are read back, and so they are from the text that is written of them. -/
theorem omitted_settings_have_defaults (s : Settings) :
    (∀ omitted v, omitted ["redis", "url"] = false → Loosened omitted [] s.toJson v →
      Settings.ofJson? v = some (filledSettings omitted s) ∧
      (∀ text, ofText? text = some v → decoded? Settings.ofJson? text = some (filledSettings omitted s)) ∧
      ∀ name ∈ plainSections, omitted [name] = true → ∀ w, Loosened (emptied name omitted) [] s.toJson w →
        Settings.ofJson? w = Settings.ofJson? v) ∧
    (∀ v, Loosened nothing [] s.toJson v → Settings.ofJson? v = some s) ∧
    decoded? Settings.ofJson? (encoded Settings.toJson s) = some s := by
  have hwhole : ∀ v, Loosened nothing [] s.toJson v → Settings.ofJson? v = some s := by
    intro v hv
    rw [settings_filled rfl hv, filledSettings_nothing]
  refine ⟨fun omitted v hurl hv => ?_, hwhole, ?_⟩
  · have hread := settings_filled hurl hv
    refine ⟨hread, fun text htext => ?_, fun name hname hname' w hw => ?_⟩
    · unfold decoded?
      rw [htext, Option.bind_some, hread]
    · have hne : "redis" ≠ name := by
        rintro rfl
        exact absurd hname (by decide)
      have hurl' : emptied name omitted ["redis", "url"] = false := (emptied_elsewhere _ hne).trans hurl
      rw [settings_filled hurl' hw, filledSettings_emptied hname hname', hread]
  · unfold decoded? encoded
    rw [ofText?_compact (spelled_settings s), Option.bind_some]
    exact hwhole _ (loosened_self (spelled_settings s) [])

def sharedSettings : Settings where
  trustProxyHeaders := true
  session := { ttlSecs := 18446744073709551615 }
  cookie := { name := "n", domain := some "é" }
  redis := some { url := "r", timeoutMs := 7 }

def someOmitted : List String → Bool := fun path =>
  path ∈ [["session"], ["cookie", "name"], ["cookie", "path"], ["cookie", "secure"], ["cookie", "same_site"],
    ["login_rate_limit"], ["redis", "timeout_ms"]]

def sparseSection (m : String × Json) : Json :=
  if m.1 = "cookie" then .record [("domain", .text "é")]
  else if m.1 = "redis" then .record [("", .null), ("url", .text "r")]
  else if m.1 = "session" then .record []
  else m.2

def sparseMembers (session : List (String × Json)) : List (String × Json) :=
  [("trust_proxy_headers", .bool true)] ++ session ++
    [("cookie", .record [("domain", .text "é")]), ("redis", .record [("", .null), ("url", .text "r")]),
      ("x", .arr [.record []])]

/-- Backwards, without the session or with an empty one, and with a member that means nothing. -/
def sparseJson (session : List (String × Json)) : Json := .record (sparseMembers session).reverse

def sparseText : String :=
  " \x7b\"x\":[\x7b\x7d],\"redis\":\x7b\"\":null,\"url\":\"r\"\x7d,\"cookie\":\x7b\"domain\":\"\\u00e9\"\x7d," ++
    "\"trust_proxy_headers\":true\x7d"

lemma sparse_cookie (h : ∀ field, omitted ["cookie", field] = someOmitted ["cookie", field]) :
    Loosened omitted ["cookie"] sharedSettings.cookie.toJson (.record [("domain", .text "é")]) := by
  refine .record Prod.snd [] (fun m hm _ => .leaf ?_) (fun m hm => absurd hm List.not_mem_nil) ?_
  · simp only [List.mem_cons, List.not_mem_nil, or_false] at hm
    rcases hm with rfl | rfl | rfl | rfl | rfl <;> exact fun _ => Json.noConfusion
  · simp [h, someOmitted, sharedSettings, orNull]

lemma sparse_redis (h : ∀ field, omitted ["redis", field] = someOmitted ["redis", field]) :
    Loosened omitted ["redis"] (orNull RedisSettings.toJson sharedSettings.redis)
      (.record [("", .null), ("url", .text "r")]) := by
  refine .record Prod.snd [("", .null)] (fun m hm _ => .leaf ?_) (by decide) ?_
  · simp only [List.mem_cons, List.not_mem_nil, or_false] at hm
    rcases hm with rfl | rfl <;> exact fun _ => Json.noConfusion
  · simpa [h, someOmitted] using List.Perm.swap _ _ _

lemma sparse_session (h : ∀ field, omitted ["session", field] = true) :
    Loosened omitted ["session"] sharedSettings.session.toJson (.record []) := by
  refine .record Prod.snd [] (fun m _ homitted => ?_) (fun m hm => absurd hm List.not_mem_nil) ?_
  · cases (h m.1).symm.trans homitted
  · simp [h]

/-- An empty session is written where the session is kept without its fields. -/
lemma sparse_loosened
    (h : ∀ first rest, first ≠ "session" → omitted (first :: rest) = someOmitted (first :: rest))
    (hsession : ∀ field, omitted ["session"] = false → omitted ["session", field] = true) :
    Loosened omitted [] sharedSettings.toJson
      (sparseJson (if omitted ["session"] then [] else [("session", .record [])])) := by
  have htop : ∀ first, first ≠ "session" → omitted [first] = someOmitted [first] := fun first => h first []
  refine .record sparseSection [("x", .arr [.record []])] ?_ (by decide) ?_
  · simp only [List.forall_mem_cons]
    exact ⟨fun _ => .leaf fun _ => Json.noConfusion,
      fun hkept => sparse_session fun field => hsession field hkept,
      fun _ => sparse_cookie fun field => h _ _ (by decide),
      fun hkept => by simp [htop, someOmitted] at hkept,
      fun _ => sparse_redis fun field => h _ _ (by decide), fun m hm => absurd hm List.not_mem_nil⟩
  · refine (List.reverse_perm _).trans (.of_eq ?_)
    cases hkept : omitted ["session"] <;>
      simp [htop, hkept, someOmitted, sparseSection, sparseMembers, sharedSettings]

set_option maxRecDepth 4000 in
theorem omitted_settings_have_defaults_sparse :
    let filled :=
      { sharedSettings with session := {}, cookie := { domain := some "é" }, redis := some { url := "r" } }
    someOmitted ["redis", "url"] = false ∧ Loosened someOmitted [] sharedSettings.toJson (sparseJson []) ∧
      Settings.ofJson? (sparseJson []) = some filled ∧ decoded? Settings.ofJson? sparseText = some filled ∧
      Settings.ofJson? (sparseJson [("session", .record [])]) = some filled ∧
      Settings.ofJson? sharedSettings.toJson = some sharedSettings := by
  intro filled
  have hsparse : Loosened someOmitted [] sharedSettings.toJson (sparseJson []) :=
    sparse_loosened (fun _ _ _ => rfl) fun _ hkept => absurd hkept (by decide)
  have hempty : Loosened (emptied "session" someOmitted) [] sharedSettings.toJson
      (sparseJson [("session", .record [])]) :=
    sparse_loosened (fun _ rest h => emptied_elsewhere rest h) fun field _ => by simp [emptied]
  have htext : ofText? sparseText = some (sparseJson []) := by rfl
  obtain ⟨homitted, hwhole, _⟩ := omitted_settings_have_defaults sharedSettings
  obtain ⟨hread, hspelled, hsame⟩ := homitted someOmitted (sparseJson []) (by decide) hsparse
  have hfilled : filledSettings someOmitted sharedSettings = filled := by decide
  rw [hfilled] at hread hspelled
  exact ⟨by decide, hsparse, hread, hspelled sparseText htext,
    (hsame "session" (by decide) (by decide) _ hempty).trans hread,
    hwhole _ (loosened_self (spelled_settings _) [])⟩

end Gatehouse.Proofs
