import Gatehouse.Proofs.CookieRun
import Gatehouse.Proofs.FailedLogins
import Gatehouse.Proofs.LiveSession
import Gatehouse.Proofs.RefreshEffects
import Gatehouse.Proofs.SettingsChecks
import Gatehouse.Setup

/-!
# How far the clock can be reckoned with

Settings may name any number of seconds, and the checks do not ask whether the clock can be moved that far.
Where it can, a login with the right password goes through, and the session that it creates can be read and
refreshed at once. That is so for centuries to come, unless a length of time takes more than a quarter of a
million years. A session that is to last longer than can be reckoned with at all gets a hundred years.
-/

namespace Gatehouse.Proofs
open Service SessionPolicy

variable {s : Settings} {p : SessionPolicy} {t : Instant} {l : Limiter} {w : World}
  {key email password : String} {ip : Option String} {user : User}

/-- How long a session is to last that is created now. -/
def lifetime (p : SessionPolicy) : Int :=
  if p.maxAge = 0 then reckoned p.ttl else min (reckoned p.ttl) (reckoned p.maxAge)

lemma second_le_reckoned {d : Span} (hd : Span.perSecond ≤ d) : 1000000000 ≤ reckoned d := by
  unfold SessionPolicy.reckoned
  split
  · exact Int.ofNat_le.2 hd
  · decide

/-- A policy under which a session lasts for a second, and is not past the hard limit before its first end. -/
structure Lasting (p : SessionPolicy) : Prop where
  ttl : Span.perSecond ≤ p.ttl
  capped : p.maxAge ≠ 0 → p.ttl ≤ p.maxAge

lemma lasting_of_checked (h : Checked s) : Lasting (ofSettings s.session) := by
  have hpositive : 0 < s.session.ttlSecs.toNat :=
    Nat.pos_of_ne_zero fun hzero => h.lasting (UInt64.toNat_inj.1 hzero)
  refine ⟨Nat.le_mul_of_pos_left _ hpositive, fun hmax => Nat.mul_le_mul_right _ ?_⟩
  rcases h.capped with hzero | hle
  · refine absurd ?_ hmax
    show s.session.maxAgeSecs.toNat * Span.perSecond = 0
    rw [hzero]
    rfl
  · exact UInt64.le_iff_toNat_le.1 hle

lemma second_le_lifetime (hp : Lasting p) : 1000000000 ≤ lifetime p := by
  have httl := second_le_reckoned hp.ttl
  unfold lifetime
  split
  · exact httl
  · rename_i hmax
    exact Int.le_min.2 ⟨httl, second_le_reckoned (Nat.le_trans hp.ttl (hp.capped hmax))⟩

lemma min_reckoned_iff {ttl maxAge hundred longest : Nat} (hlongest : hundred ≤ longest)
    (hcapped : ttl ≤ maxAge) :
    min (if ttl ≤ longest then (ttl : Int) else hundred)
      (if maxAge ≤ longest then (maxAge : Int) else hundred) = ttl ↔
      ttl ≤ hundred ∨ ttl ≤ longest ∧ maxAge ≤ longest := by
  split <;> split <;> omega

/-- The hundred years that stand for a length of time out of range cut a session short exactly if it was to
last longer than they do, and one of its lengths is out of range. -/
lemma lifetime_eq_iff (hp : Lasting p) :
    lifetime p = p.ttl ↔ p.ttl ≤ Span.ofSecs (36500 * 86400) ∨
      p.ttl ≤ Span.longest ∧ p.maxAge ≤ Span.longest := by
  have hlongest : Span.ofSecs (36500 * 86400) ≤ Span.longest := by decide
  unfold lifetime
  by_cases hmax : p.maxAge = 0
  -- without a hard limit it is as if the limit were the length of a session itself
  · have hsame := min_reckoned_iff hlongest (Nat.le_refl p.ttl)
    rw [min_self, and_self] at hsame
    rw [if_pos hmax, hmax]
    exact hsame.trans (or_congr_right (and_iff_left (Nat.zero_le _)).symm)
  · rw [if_neg hmax]
    exact min_reckoned_iff hlongest (hp.capped hmax)

/-- Everything that a login reckons with at an instant lies in the range of instants: the end of a new
session, its hard limit, and the end of a window of the limiter. -/
structure Reckonable (s : Settings) (t : Instant) : Prop where
  ends : t.add? (reckoned (ofSettings s.session).ttl) ≠ none
  capped : (ofSettings s.session).maxAge ≠ 0 → t.add? (reckoned (ofSettings s.session).maxAge) ≠ none
  limited : s.loginRateLimit.enabled = true → t.add? (Span.ofSecs s.loginRateLimit.windowSecs.toNat) ≠ none

lemma cappedExpiry?_now (hp : Lasting p) (hends : t.add? (reckoned p.ttl) ≠ none)
    (hcapped : p.maxAge ≠ 0 → t.add? (reckoned p.maxAge) ≠ none) :
    ∃ expiresAt, p.cappedExpiry? t t = some expiresAt ∧ t.add? (lifetime p) = some expiresAt := by
  obtain ⟨sliding, hsliding⟩ := Option.ne_none_iff_exists'.1 hends
  unfold SessionPolicy.cappedExpiry? lifetime
  rw [hsliding]
  by_cases hmax : p.maxAge = 0
  · rw [if_pos hmax]
    exact ⟨sliding, if_pos hmax, hsliding⟩
  · obtain ⟨limit, hlimit⟩ := Option.ne_none_iff_exists'.1 (hcapped hmax)
    have hlong := second_le_reckoned (Nat.le_trans hp.ttl (hp.capped hmax))
    have hearlier := earlier_add? (second_le_reckoned hp.ttl) hlong hsliding hlimit
    rw [if_neg hmax, hlimit]
    exact ⟨sliding.earlier limit, if_neg hmax, hearlier⟩

lemma creatable_of_add? (hp : Lasting p) {expiresAt : Instant}
    (hexpiry : p.cappedExpiry? t t = some expiresAt) (hends : t.add? (lifetime p) = some expiresAt) :
    Creatable p t := by
  refine ⟨expiresAt, hexpiry, ?_⟩
  have hsecond := second_le_lifetime hp
  have hroom : t.add? (lifetime p) ≠ none := by
    rw [hends]
    exact Option.some_ne_none expiresAt
  rw [add?_ne_none_iff hsecond] at hroom
  have hsince := since_le_of_add? hsecond hends
  rw [add?_ne_none_iff (Int.le_max_right _ _)]
  omega

/-- A length of time that can be reckoned with up to the end of the year 2200. -/
def Moderate (d : Span) : Prop := d ≤ Span.ofSecs 8202977222400

instance (d : Span) : Decidable (Moderate d) := inferInstanceAs (Decidable (_ ≤ _))

/-- An instant lies before the first moment of the year after its own, and so before that of every later
year. -/
lemma nanos_lt_of_year {year : Int} (h : Time.yearOfDay t.dayNumber ≤ year) :
    t.nanos < (Time.daysBeforeYear (year + 1) - Time.epochDay) * 86400 * 1000000000 := by
  have hyear := (Time.daysBeforeYear_le_and_lt t.dayNumber).2
  have hday : t.dayNumber < Time.daysBeforeYear (year + 1) := by
    unfold Time.daysBeforeYear at hyear ⊢
    omega
  unfold Instant.dayNumber Instant.seconds at hday
  omega

lemma add?_of_moderate (hyear : Time.yearOfDay t.dayNumber ≤ 2200) {d : Span} (hd : Span.perSecond ≤ d)
    (hmoderate : Moderate d) : t.add? d ≠ none := by
  have hnanos := nanos_lt_of_year hyear
  have hend : (Time.daysBeforeYear (2200 + 1) - Time.epochDay) * 86400 * 1000000000 =
    7289654400000000000 := by decide
  have hsecond : (1000000000 : Int) ≤ d := Int.ofNat_le.2 hd
  have hmost : (d : Int) ≤ 8202977222400 * 1000000000 := Int.ofNat_le.2 hmoderate
  rw [add?_ne_none_iff hsecond]
  omega

lemma add?_reckoned (hyear : Time.yearOfDay t.dayNumber ≤ 2200) {d : Span} (hd : Span.perSecond ≤ d)
    (hmoderate : Moderate d ∨ Span.longest < d) : t.add? (reckoned d) ≠ none := by
  unfold SessionPolicy.reckoned
  split
  · rename_i hle
    exact add?_of_moderate hyear hd (hmoderate.resolve_right (Nat.not_lt.2 hle))
  · exact add?_of_moderate hyear (by decide) (by decide)

lemma second_le_window (h : s.loginRateLimit.windowSecs ≠ 0) :
    Span.perSecond ≤ Span.ofSecs s.loginRateLimit.windowSecs.toNat :=
  Nat.le_mul_of_pos_left _ (Nat.pos_of_ne_zero fun hzero => h (UInt64.toNat_inj.1 hzero))

lemma reckonable_of_moderate (h : Checked s) (hyear : Time.yearOfDay t.dayNumber ≤ 2200)
    (httl : Moderate (ofSettings s.session).ttl ∨ Span.longest < (ofSettings s.session).ttl)
    (hmax : Moderate (ofSettings s.session).maxAge ∨ Span.longest < (ofSettings s.session).maxAge)
    (hwindow : Moderate (Span.ofSecs s.loginRateLimit.windowSecs.toNat)) : Reckonable s t := by
  have hp := lasting_of_checked h
  exact ⟨add?_reckoned hyear hp.ttl httl,
    fun hcapped => add?_reckoned hyear (Nat.le_trans hp.ttl (hp.capped hcapped)) hmax,
    fun henabled => add?_of_moderate hyear (second_le_window (h.limited henabled).2) hwindow⟩

/-- The limiter can decide an attempt on a key now, and has room for it. -/
structure Admits (l : Limiter) (now : Instant) (key : String) : Prop where
  counted : now.add? l.window.window ≠ none
  positive : l.window.limit ≠ 0
  spare : ∀ c, l.counter? key = some c → now < c.resetsAt → c.count < l.window.limit.toNat

lemma admits_sweepIfDue (h : Admits l t key) : Admits (sweepIfDue l t) t key := by
  unfold sweepIfDue
  split
  · refine ⟨h.counted, h.positive, fun c hc => h.spare c ?_⟩
    rw [Limiter.counter?_sweep] at hc
    exact (Option.filter_eq_some_iff.1 hc).1
  · exact h

lemma charge_le (h : Admits l t key) (ends : Instant) :
    (Counter.charge (l.counter? key) t ends).count ≤ l.window.limit.toNat := by
  have hpositive : l.window.limit.toNat ≠ 0 := fun hzero => h.positive (UInt64.toNat_inj.1 hzero)
  unfold Counter.charge
  cases hcounter : l.counter? key with
  | none => exact Nat.one_le_iff_ne_zero.2 hpositive
  | some c =>
    dsimp only
    split
    · exact Nat.one_le_iff_ne_zero.2 hpositive
    · rename_i hopen
      exact h.spare c hcounter (instant_not_le.1 hopen)

lemma attempt_of_admits (h : Admits l t key) :
    ∃ d l', l.attempt t key = (some (.ok d), l') ∧ d.allowed = true ∧
      ∀ key', key' ≠ key → Admits l t key' → Admits l' t key' := by
  obtain ⟨ends, hends⟩ := Option.ne_none_iff_exists'.1 h.counted
  have hcount := charge_le (admits_sweepIfDue h) ends
  rw [sweepIfDue_window] at hcount
  refine ⟨_, _, attempt_eq key hends, decide_eq_true hcount, ?_⟩
  intro key' hne h'
  have hswept := admits_sweepIfDue h'
  refine ⟨hswept.counted, hswept.positive, fun c hc => hswept.spare c ?_⟩
  rw [counter?_countAttempt, if_neg hne] at hc
  exact hc

/-- Without a limiter there is nothing to decide. -/
def AdmitsIn (w : World) (key : String) : Prop := ∀ l, w.limiter = some l → Admits l w.now key

lemma charge_of_admits (h : AdmitsIn w key) :
    ∃ limiter, w.perform (charge key).run = (some (.ok ()), { w with limiter }) ∧
      ∀ key', key' ≠ key → AdmitsIn w key' → AdmitsIn { w with limiter } key' := by
  unfold charge
  simp only [perform_bind, perform_ask, World.answer, World.attempt]
  cases hl : w.limiter with
  | none =>
    refine ⟨w.limiter, rfl, fun key' _ h' => h'⟩
  | some l =>
    obtain ⟨d, l', hattempt, hallowed, hothers⟩ := attempt_of_admits (h l hl)
    refine ⟨some l', ?_, fun key' hne h' l'' hl'' => ?_⟩
    · simp only [hattempt, Option.map_some, perform_orTell, mapError_ok, hallowed]
      rfl
    · cases hl''
      exact hothers key' hne (h' l hl)

/-- The keys that a login is charged on. -/
def loginKeys (email : String) (ip : Option String) : List String :=
  (addressKey? ip).toList ++ [emailKey (normalEmail email)]

lemma admission_of_admits (hat : (normalEmail email).toList.contains '@' = true)
    (hpassword : Text.trim password ≠ "") (h : ∀ key ∈ loginKeys email ip, AdmitsIn w key) :
    ∃ limiter, w.perform (admission (normalEmail email) (Text.trim password) ip).run =
      (some (.ok ()), { w with limiter }) := by
  have hemail : normalEmail email ≠ "" := by
    intro hempty
    rw [hempty] at hat
    cases hat
  have hcharge := h (emailKey (normalEmail email)) (List.mem_append_right _ (List.mem_singleton_self _))
  unfold admission
  rw [if_neg (not_or.2 ⟨hemail, hpassword⟩), if_neg (by rw [hat]; decide)]
  cases haddress : addressKey? ip with
  | none =>
    obtain ⟨limiter, hrun, _⟩ := charge_of_admits hcharge
    exact ⟨limiter, hrun⟩
  | some key =>
    have hfirst : AdmitsIn w key := by
      refine h key (List.mem_append_left _ ?_)
      rw [haddress]
      exact List.mem_singleton_self key
    obtain ⟨limiter, hrun, hothers⟩ := charge_of_admits hfirst
    -- the two attempts are on different keys, so that the first leaves the room for the second as it is
    have hne : emailKey (normalEmail email) ≠ key := by
      intro heq
      exact key_ne_key {} haddress (congrArg _ heq.symm)
    obtain ⟨limiter', hrun', _⟩ := charge_of_admits (hothers _ hne hcharge)
    refine ⟨limiter', ?_⟩
    rw [perform_bind, hrun]
    exact hrun'

/-- The credentials of a user on file. -/
structure Valid (users : UserStore) (verify : String → String → Bool) (email password : String)
    (user : User) : Prop where
  address : (normalEmail email).toList.contains '@' = true
  present : Text.trim password ≠ ""
  known : users.findByEmail? (normalEmail email) = some user
  right : verify (Text.trim password) user.passwordHash = true

/-- The session of a login is there, and can be read and refreshed at once. -/
structure Usable (p : SessionPolicy) (w : World) (s : Session) : Prop where
  found : w.perform (p.get s.id).run = (some (.ok s), w)
  refreshed : w.perform (p.refresh s).run = (some (.ok (s, false)), w)

lemma create_usable (h : Creatable p w.now) (userId role : String) :
    ∃ s w', w.perform (p.create userId role).run = (some (.ok s), w') ∧ s.createdAt = w.now ∧
      p.cappedExpiry? w.now w.now = some s.expiresAt ∧ Usable p w' s := by
  rcases create_cases p w userId role with hrun | ⟨expiresAt, evictAt, hexpiry, hbounded, hevict, hrun⟩
  · obtain ⟨_, _, _, hcreated⟩ := create_of_creatable h userId role
    rw [hrun] at hcreated
    cases hcreated
  · refine ⟨_, _, hrun, rfl, hexpiry, ?_⟩
    have hyoung := pastMaxAge?_of_le_expiresAt hbounded hbounded.refreshed_le
    refine ⟨get_of_liveSession (issued_not_blank _) ⟨⟨evictAt, ?_, ?_⟩, hbounded.refreshed_le, hyoung⟩, ?_⟩
    · exact (Table.get?_insert _ _ _ _).trans (if_pos rfl)
    · exact lt_add? (Int.lt_of_lt_of_le (by decide) (Int.le_max_right _ _)) hevict
    · have hdue := refreshed?_of_same_end (s := newSession p w userId role expiresAt) hexpiry
      rw [perform_refresh]
      simp only [fileSession, drawTokens, newSession] at hyoung hdue ⊢
      rw [hyoung]
      dsimp only
      rw [hdue]

lemma login_usable {sv : Service} (hcreatable : Creatable sv.policy w.now)
    (hvalid : Valid w.users w.verify email password user) (h : ∀ key ∈ loginKeys email ip, AdmitsIn w key) :
    ∃ s w', w.perform (sv.login email password ip).run = (some (.ok ⟨⟨user.id, user.role⟩, s⟩), w') ∧
      s.createdAt = w.now ∧ sv.policy.cappedExpiry? w.now w.now = some s.expiresAt ∧
      Usable sv.policy w' s := by
  obtain ⟨limiter, hadmission⟩ := admission_of_admits hvalid.address hvalid.present h
  obtain ⟨s, w', hcreate, hcreated, hexpiry, husable⟩ :=
    create_usable (w := { w with limiter }) hcreatable user.id user.role
  refine ⟨s, w', ?_, hcreated, hexpiry, husable⟩
  rw [perform_login, hadmission]
  dsimp only
  unfold examined
  rw [hvalid.known, Option.filter_some, if_pos hvalid.right]
  dsimp only
  rw [hcreate]
  rfl

/-! ### Sites that are set up -/

lemma setUp_spec {start : Instant} {tokens : TokenSource} {users : UserStore} {site : Site}
    (h : s.setUp start tokens users = .ok (site, w)) :
    Checked s ∧ site = s.site ∧ w = s.world start tokens users := by
  unfold Settings.setUp at h
  cases hvalid : s.validate with
  | error e =>
    rw [hvalid] at h
    cases h
  | ok _ =>
    rw [hvalid] at h
    split at h
    · cases h
    · cases h
      exact ⟨checked_of_validate hvalid, rfl, rfl⟩

/-- Who is on file, and what is right for a password. -/
def registered (w : World) : UserStore × (String → String → Bool) := (w.users, w.verify)

lemma registered_answer (c : Call) (w : World) : registered (World.answer c w).2 = registered w := by
  have hleaves := answer_leaves c w
  generalize (World.answer c w).2 = w' at hleaves ⊢
  cases hleaves <;> rfl

lemma registered_purgeLimiter (w : World) : registered w.purgeLimiter.2 = registered w := by
  unfold World.purgeLimiter
  cases w.limiter <;> rfl

lemma siteRun_registered (site : Site) (w : World) (steps : List (Instant × SiteStep)) :
    registered (siteRun site w steps).1 = registered w :=
  siteRun_fixes (fun _ _ => rfl) registered_answer (fun _ => rfl) registered_purgeLimiter site w steps

lemma window_of_settings {r : RateLimitSettings} (hlimit : r.limit ≠ 0)
    (hwindow : Span.ofSecs r.windowSecs.toNat ≠ 0) :
    (FixedWindow.ofSettings r).normalized.limit = r.limit ∧
      (FixedWindow.ofSettings r).normalized.window = Span.ofSecs r.windowSecs.toNat := by
  unfold FixedWindow.ofSettings FixedWindow.normalized
  simp only [if_neg hlimit, if_neg hwindow, and_self]

lemma window_world (s : Settings) (start : Instant) (tokens : TokenSource) (users : UserStore) :
    (s.world start tokens users).limiter.map Limiter.window =
      if s.loginRateLimit.enabled then some (FixedWindow.ofSettings s.loginRateLimit).normalized
        else none := by
  unfold Settings.world
  dsimp only
  split <;> rfl

/-- Of no key that a login is charged on have all attempts of an open window been taken. -/
def WithinLimit (limit : UInt64) (w : World) (email : String) (ip : Option String) : Prop :=
  ∀ key ∈ loginKeys email ip, ∀ c, counterIn w key = some c → w.now < c.resetsAt → c.count < limit.toNat

/-- The limiter of a site has the limit and the window of the settings, at every moment of a run. -/
lemma admitsIn_reached (h : Checked s) (hreckonable : Reckonable s w.now)
    (hlimiter : w.limiter.map Limiter.window =
      if s.loginRateLimit.enabled then some (FixedWindow.ofSettings s.loginRateLimit).normalized else none)
    (hwithin : WithinLimit s.loginRateLimit.limit w email ip) :
    ∀ key ∈ loginKeys email ip, AdmitsIn w key := by
  intro key hkey l hl
  rw [hl, Option.map_some] at hlimiter
  split at hlimiter
  · rename_i henabled
    obtain ⟨hlimit, hwindow⟩ := h.limited henabled
    have hlong := second_le_window hwindow
    obtain ⟨hlimit', hwindow'⟩ :=
      window_of_settings hlimit (Nat.ne_of_gt (Nat.lt_of_lt_of_le (by decide) hlong))
    have hkept : l.window = (FixedWindow.ofSettings s.loginRateLimit).normalized := Option.some.inj hlimiter
    refine ⟨?_, ?_, fun c hc hopen => ?_⟩
    · rw [hkept, hwindow']
      exact hreckonable.limited henabled
    · rw [hkept, hlimit']
      exact hlimit
    · rw [hkept, hlimit']
      refine hwithin key hkey c ?_ hopen
      rw [counterIn, hl]
      exact hc
  · cases hlimiter

/-- Let a site be set up, and let anything happen to it. At an instant at which everything can be reckoned
with that a login reckons with, a login with the right password and within the limit succeeds, and creates a
session that lasts for its lifetime from then on and can be read and refreshed at once. Up to the year 2200
everything can be reckoned with if no length of time in the settings exceeds 8202977222400 seconds, where
those of sessions may also lie beyond 2 ^ 63 - 1 milliseconds. The lifetime is the one of the settings,
unless that is more than a hundred years and it or the hard limit is too long to be reckoned with. -/
theorem login_within_range (s : Settings) (start : Instant) (tokens : TokenSource) (users : UserStore)
    (verify : String → String → Bool) (site : Site) (w : World)
    (hsetUp : s.setUp start tokens users = .ok (site, w)) (steps : List (Instant × SiteStep)) (t : Instant) :
    let p := SessionPolicy.ofSettings s.session
    let reached : World := { (siteRun site { w with verify } steps).1 with now := t }
    (Reckonable s t → ∀ email password ip user, Valid users verify email password user →
      WithinLimit s.loginRateLimit.limit reached email ip →
      ∃ session w', reached.perform (site.service.login email password ip).run =
          (some (.ok ⟨⟨user.id, user.role⟩, session⟩), w') ∧
        session.createdAt = t ∧ t.add? (lifetime p) = some session.expiresAt ∧ Usable p w' session) ∧
    (Time.yearOfDay t.dayNumber ≤ 2200 → (Moderate p.ttl ∨ Span.longest < p.ttl) →
      (Moderate p.maxAge ∨ Span.longest < p.maxAge) →
      Moderate (Span.ofSecs s.loginRateLimit.windowSecs.toNat) → Reckonable s t) ∧
    (lifetime p = p.ttl ↔ p.ttl ≤ Span.ofSecs (36500 * 86400) ∨
      p.ttl ≤ Span.longest ∧ p.maxAge ≤ Span.longest) := by
  intro p reached
  obtain ⟨hchecked, rfl, rfl⟩ := setUp_spec hsetUp
  have hlasting : Lasting s.site.service.policy := lasting_of_checked hchecked
  refine ⟨?_, reckonable_of_moderate hchecked, lifetime_eq_iff hlasting⟩
  intro hreckonable email password ip user hvalid hwithin
  obtain ⟨expiresAt, hexpiry, hends⟩ := cappedExpiry?_now hlasting hreckonable.ends hreckonable.capped
  have hregistered := siteRun_registered s.site { s.world start tokens users with verify } steps
  have hvalid : Valid reached.users reached.verify email password user := by
    rw [show reached.users = users from congrArg Prod.fst hregistered,
      show reached.verify = verify from congrArg Prod.snd hregistered]
    exact hvalid
  have hlimiter := (siteRun_window s.site { s.world start tokens users with verify } steps).trans
    (window_world s start tokens users)
  obtain ⟨session, w', hlogin, hcreated, hexpiry', husable⟩ := login_usable (w := reached)
    (creatable_of_add? hlasting hexpiry hends) hvalid (admitsIn_reached hchecked hreckonable hlimiter hwithin)
  exact ⟨session, w', hlogin, hcreated, hends.trans (hexpiry.symm.trans hexpiry'), husable⟩

/-- With the settings that come by default, a login after others lasts for a week. -/
theorem login_within_range_by_default :
    let site := Settings.site {}
    let before :=
      siteRun site { Settings.world {} .epoch countedTokens openWorld.users with verify := openWorld.verify }
      browsingSteps
    let reached : World := { before.1 with now := atSecond 20 }
    ∃ session w', reached.perform (site.service.login "a@b" "p" none).run =
      (some (.ok ⟨⟨"u", "r"⟩, session⟩), w') ∧
      session.expiresAt = atSecond 604820 ∧ Usable (SessionPolicy.ofSettings {}) w' session := by
  intro site before reached
  have hsetUp : Settings.setUp {} .epoch countedTokens openWorld.users =
      .ok (site, Settings.world {} .epoch countedTokens openWorld.users) := rfl
  obtain ⟨hsucceeds, hmoderate, _⟩ :=
    login_within_range {} .epoch countedTokens openWorld.users openWorld.verify _ _
    hsetUp browsingSteps (atSecond 20)
  have hreckonable := hmoderate (by decide) (Or.inl (by decide)) (Or.inl (by decide)) (by decide)
  have hvalid : Valid openWorld.users openWorld.verify "a@b" "p" ⟨"u", "a@b", "", "r"⟩ :=
    ⟨by decide, by decide, by decide, rfl⟩
  have hwithin : WithinLimit 5 reached "a@b" none := by
    intro key hkey c hc _
    obtain rfl : key = "login:email:a@b" := List.mem_singleton.1 hkey
    have hcounted : (counterIn reached "login:email:a@b").map Counter.count = some 1 := by decide +kernel
    rw [hc, Option.map_some, Option.some.injEq] at hcounted
    rw [hcounted]
    decide
  obtain ⟨session, w', hlogin, _, hends, husable⟩ := hsucceeds hreckonable "a@b" "p" none _ hvalid hwithin
  have hweek : (atSecond 20).add? (lifetime (SessionPolicy.ofSettings {})) =
    some (atSecond 604820) := by decide +kernel
  exact ⟨session, w', hlogin, Option.some.inj (hends.symm.trans hweek), husable⟩

/-- Sessions that are to last for more than thirty thousand years, under a hard limit that is as high as can
be. -/
def agesSettings : Settings where
  session := { ttlSecs := 1000000000000, maxAgeSecs := 18446744073709551615, refreshBeforeSecs := 0 }

/-- These settings pass all checks, but the sessions last for a hundred years. -/
theorem hundred_years_for_ages :
    let p := SessionPolicy.ofSettings agesSettings.session
    let w : World :=
      { agesSettings.world .epoch countedTokens openWorld.users with verify := openWorld.verify }
    agesSettings.validate = .ok () ∧ agesSettings.redis = none ∧ Time.yearOfDay w.now.dayNumber = 1970 ∧
      Valid w.users w.verify "a@b" "p" ⟨"u", "a@b", "", "r"⟩ ∧
      WithinLimit agesSettings.loginRateLimit.limit w "a@b" none ∧
      ∃ outcome, (w.perform (agesSettings.site.service.login "a@b" "p" none).run).1 = some (.ok outcome) ∧
        outcome.session.createdAt = w.now ∧ w.now.add? (p.ttl : Int) ≠ none ∧
        w.now.add? (p.ttl : Int) ≠ some outcome.session.expiresAt ∧
        outcome.session.expiresAt = atSecond 3153600000 := by
  intro p w
  have hvalid : Valid w.users w.verify "a@b" "p" ⟨"u", "a@b", "", "r"⟩ :=
    ⟨by decide, by decide, by decide, rfl⟩
  have hwithin : WithinLimit agesSettings.loginRateLimit.limit w "a@b" none := by
    intro key _ c hc _
    cases hc
  refine ⟨by decide +kernel, rfl, by decide, hvalid, hwithin, ?_⟩
  let s : Session := newSession p w "u" "r" (atSecond 3153600000)
  refine ⟨⟨⟨"u", "r"⟩, s⟩, ?_, rfl, by decide +kernel, by decide +kernel, rfl⟩
  decide +kernel

end Gatehouse.Proofs
