import Gatehouse.Proofs.ActivityRun
import Gatehouse.Proofs.SettingsChecks

/-!
# How long a session endures

A session that is visited often enough is never lost before its hard limit. Often enough is within the time
that a refresh is due before the end, or within a whole lifetime if refreshes are always due: a visit either
finds that much time left or moves the end a lifetime away, and nothing else can shorten what is left.
-/

namespace Gatehouse.Proofs
open SessionPolicy Service

/-- A policy under which sessions live for a second at least, and are due for a refresh only once that makes a
difference. -/
structure Workable (p : SessionPolicy) : Prop where
  lasting : Span.perSecond ≤ p.ttl
  prompt : p.refreshBefore < p.ttl

lemma workable_of_validate {settings : Settings} (h : settings.validate = .ok ()) :
    Workable (ofSettings settings.session) := by
  have hchecked := checked_of_validate h
  have hpos : settings.session.ttlSecs.toNat ≠ 0 := fun h0 => hchecked.lasting (UInt64.toNat_inj.1 h0)
  have hlt := UInt64.lt_iff_toNat_lt.1 hchecked.prompt
  refine ⟨?_, ?_⟩
  · show Span.perSecond ≤ settings.session.ttlSecs.toNat * Span.perSecond
    exact Nat.le_mul_of_pos_left _ (Nat.pos_of_ne_zero hpos)
  · show settings.session.refreshBeforeSecs.toNat * Span.perSecond <
      settings.session.ttlSecs.toNat * Span.perSecond
    exact Nat.mul_lt_mul_of_pos_right hlt (by decide)

/-- How soon after a visit the next one has to come. -/
def pace (p : SessionPolicy) : Span := if p.refreshBefore = 0 then p.ttl else p.refreshBefore

variable {p : SessionPolicy} {sv : Service} {w : World} {id csrfToken : String} {owner : Principal}
  {t₀ last now t : Instant} {e : StoredSession}

lemma pace_le (hp : Workable p) : (pace p : Int) ≤ p.ttl := by
  refine Int.ofNat_le.2 ?_
  unfold pace
  split
  · exact Nat.le_refl p.ttl
  · exact Nat.le_of_lt hp.prompt

lemma reckoned_of_add? {d : Span} (h : t.add? d ≠ none) : reckoned d = d := by
  obtain ⟨u, hu⟩ := Option.ne_none_iff_exists'.1 h
  unfold SessionPolicy.reckoned
  rw [if_pos (le_longest_of_add? hu)]

/-- A visit that comes in time after the last one, and before the hard limit of a session created at `t₀`.
The clock shows no leap second, and the end of a session that is refreshed now can be reckoned with. Without
the first condition the visits of `visits_let_in` would not all be let in, as `leap_second_loses_visit`
shows: what is left of a session is counted a second short within a leap second, and the store lets go of it
that much too soon. -/
structure Timely (p : SessionPolicy) (t₀ last t : Instant) : Prop where
  ordinary : t.leap = false
  counted : t.add? p.ttl ≠ none
  gap : t.nanos - last.nanos < pace p
  capped : p.maxAge ≠ 0 → t.nanos < t₀.nanos + p.maxAge

/-- An entry that will do until the next visit in time. -/
structure Enduring (p : SessionPolicy) (t₀ last : Instant) (id csrfToken : String) (owner : Principal)
    (e : StoredSession) : Prop where
  own : e.session.id = id
  granted : (⟨e.session.userId, e.session.role⟩ : Principal) = owner
  guarded : e.session.csrfToken = csrfToken
  created : e.session.createdAt = t₀
  ordinary : e.session.expiresAt.leap = false ∧ e.evictAt.leap = false
  kept : e.session.expiresAt.nanos ≤ e.evictAt.nanos
  lasting : last.nanos + pace p ≤ e.session.expiresAt.nanos ∨
    p.maxAge ≠ 0 ∧ t₀.nanos + p.maxAge ≤ e.session.expiresAt.nanos

/-- The moment when a session was created, and that it can be reckoned with. -/
structure Founded (p : SessionPolicy) (t₀ : Instant) : Prop where
  ordinary : t₀.leap = false
  counted : t₀.add? p.ttl ≠ none
  capped : t₀.add? p.maxAge ≠ none

lemma lt_expiresAt (h : Enduring p t₀ last id csrfToken owner e) (ht : Timely p t₀ last t) :
    t.nanos < e.session.expiresAt.nanos := by
  have hgap := ht.gap
  rcases h.lasting with hlasting | ⟨hmax, hlasting⟩
  · omega
  · have hcapped := ht.capped hmax
    omega

lemma limit_of_founded (h₀ : Founded p t₀) :
    ∃ limit, t₀.add? (reckoned p.maxAge) = some limit ∧ limit.nanos = t₀.nanos + p.maxAge ∧
      limit.leap = false := by
  obtain ⟨limit, hlimit⟩ := Option.ne_none_iff_exists'.1 h₀.capped
  obtain ⟨hnanos, hleap⟩ := add?_ordinary h₀.ordinary hlimit
  exact ⟨limit, by rw [reckoned_of_add? h₀.capped]; exact hlimit, hnanos, hleap⟩

lemma liveSession_of_enduring (h₀ : Founded p t₀) (h : Enduring p t₀ last id csrfToken owner e)
    (hget : w.sessions.get? id = some e) (ht : Timely p t₀ last t) (hle : w.now ≤ t) :
    LiveSession p w id e.session := by
  have hlt := lt_expiresAt h ht
  refine ⟨⟨e.evictAt, hget, instant_lt_of_le_of_lt hle ?_⟩, instant_le_trans hle ?_,
    pastMaxAge?_of_le fun hmax => ?_⟩
  · rw [Instant.lt_iff_nanos_lt ht.ordinary h.ordinary.2]
    exact Int.lt_of_lt_of_le hlt h.kept
  · rw [Instant.le_iff_nanos_le ht.ordinary h.ordinary.1]
    exact Int.le_of_lt hlt
  · obtain ⟨limit, hlimit, hnanos, hleap⟩ := limit_of_founded h₀
    rw [h.created]
    refine ⟨limit, hlimit, instant_le_trans hle ?_⟩
    rw [Instant.le_iff_nanos_le ht.ordinary hleap, hnanos]
    exact Int.le_of_lt (ht.capped hmax)

/-- The end of a session that is refreshed is a lifetime away, unless the hard limit comes first. -/
lemma cappedExpiry?_of_founded (h₀ : Founded p t₀) (hnow : now.leap = false)
    (hcounted : now.add? p.ttl ≠ none) :
    ∃ expiresAt, p.cappedExpiry? t₀ now = some expiresAt ∧ expiresAt.leap = false ∧
      expiresAt.nanos ≤ now.nanos + p.ttl ∧
      (now.nanos + p.ttl ≤ expiresAt.nanos ∨ p.maxAge ≠ 0 ∧ t₀.nanos + p.maxAge ≤ expiresAt.nanos) := by
  obtain ⟨sliding, hsliding⟩ := Option.ne_none_iff_exists'.1 hcounted
  obtain ⟨hnanos, hleap⟩ := add?_ordinary hnow hsliding
  rw [← reckoned_of_add? hcounted] at hsliding
  unfold SessionPolicy.cappedExpiry?
  rw [hsliding]
  by_cases hmax : p.maxAge = 0
  · simp only [Option.bind_eq_bind, Option.bind_some, if_pos hmax]
    exact ⟨sliding, rfl, hleap, by omega, Or.inl (by omega)⟩
  · obtain ⟨limit, hlimit, hlimitNanos, hlimitLeap⟩ := limit_of_founded h₀
    simp only [Option.bind_eq_bind, Option.bind_some, if_neg hmax, hlimit]
    refine ⟨sliding.earlier limit, rfl, earlier_leap hleap hlimitLeap, ?_⟩
    unfold Instant.earlier
    split
    · rename_i hlt
      rw [Instant.lt_iff_nanos_lt hlimitLeap hleap] at hlt
      exact ⟨by omega, Or.inr ⟨hmax, by omega⟩⟩
    · exact ⟨by omega, Or.inl (by omega)⟩

lemma enduring_unchanged (h : Enduring p t₀ last id csrfToken owner e)
    (hlasting : now.nanos + pace p ≤ e.session.expiresAt.nanos ∨
      p.maxAge ≠ 0 ∧ t₀.nanos + p.maxAge ≤ e.session.expiresAt.nanos) :
    Enduring p t₀ now id csrfToken owner e :=
  { h with lasting := hlasting }

lemma enduring_written (hp : Workable p) {s : Session} {evictAt : Instant}
    (hown : s.id = id) (hgranted : (⟨s.userId, s.role⟩ : Principal) = owner)
    (hguarded : s.csrfToken = csrfToken) (hcreated : s.createdAt = t₀) (hlast : s.lastRefreshedAt = now)
    (hnow : now.leap = false) (hends : s.expiresAt.leap = false) (hevict : evictionOf? s = some evictAt)
    (hfar : now.nanos + p.ttl ≤ s.expiresAt.nanos ∨ p.maxAge ≠ 0 ∧ t₀.nanos + p.maxAge ≤ s.expiresAt.nanos) :
    Enduring p t₀ now id csrfToken owner ⟨s, evictAt⟩ := by
  obtain ⟨hleap, hnanos⟩ := evictionOf?_ordinary (by rw [hlast]; exact hnow) hends hevict
  have hpace := pace_le hp
  refine ⟨hown, hgranted, hguarded, hcreated, ⟨hends, hleap⟩, ?_, hfar.imp_left fun hfar => ?_⟩
  · show s.expiresAt.nanos ≤ evictAt.nanos
    omega
  · show now.nanos + pace p ≤ s.expiresAt.nanos
    omega

/-- There is room for as long as a store is to keep a session that ends within a lifetime. -/
lemma add?_storeTtl (hp : Workable p) (hnow : now.leap = false)
    (hcounted : now.add? p.ttl ≠ none) {s : Session} (hends : s.expiresAt.leap = false)
    (hle : s.expiresAt.nanos ≤ now.nanos + p.ttl) :
    ∃ evictAt, now.add? (storeTtl s now) = some evictAt := by
  obtain ⟨sliding, hsliding⟩ := Option.ne_none_iff_exists'.1 hcounted
  have hroom := sliding.le_latest
  have hlasting : ((Span.perSecond : Nat) : Int) ≤ p.ttl := Int.ofNat_le.2 hp.lasting
  have hsecond : ((Span.perSecond : Nat) : Int) = 1000000000 := rfl
  rw [(add?_ordinary hnow hsliding).1] at hroom
  have hspan := storeTtl_eq s now
  rw [Instant.since_of_not_leap hends hnow] at hspan
  exact add?_of_le (Int.natCast_nonneg _) (by omega)

lemma refresh_enduring (hp : Workable p) (h₀ : Founded p t₀) (h : Enduring p t₀ last id csrfToken owner e)
    (hget : w.sessions.get? id = some e) (ht : Timely p t₀ last w.now) :
    ∃ s' written w' e', w.perform (p.refresh e.session).run = (some (.ok (s', written)), w') ∧
      s'.id = id ∧ (⟨s'.userId, s'.role⟩ : Principal) = owner ∧
      w'.sessions.get? id = some e' ∧ Enduring p t₀ w.now id csrfToken owner e' := by
  have hyoung := (liveSession_of_enduring h₀ h hget ht (instant_le_refl w.now)).young
  have hpositive : p.ttl ≠ 0 := Nat.ne_of_gt (Nat.lt_of_lt_of_le (by decide) hp.lasting)
  obtain ⟨expiresAt, hexpiry, hends, hle, hfar⟩ := cappedExpiry?_of_founded h₀ ht.ordinary ht.counted
  have hpace := pace_le hp
  rw [← h.created] at hexpiry
  rw [perform_refresh, hyoung]
  simp only
  by_cases hspare : p.refreshBefore ≠ 0 ∧ reckoned p.refreshBefore ≤ e.session.remaining w.now
  -- enough is left, so that nothing is written
  · have hkept : p.refreshed? e.session w.now = some none := by
      unfold SessionPolicy.refreshed?
      rw [if_neg hpositive, if_pos hspare]
    rw [hkept]
    refine ⟨e.session, false, w, e, rfl, h.own, h.granted, hget, enduring_unchanged h (Or.inl ?_)⟩
    have hleft := hspare.2
    rw [Session.remaining, Instant.since_of_not_leap h.ordinary.1 ht.ordinary] at hleft
    have hreckoned : reckoned p.refreshBefore = pace p := by
      obtain ⟨sliding, hsliding⟩ := Option.ne_none_iff_exists'.1 ht.counted
      unfold SessionPolicy.reckoned pace
      rw [if_neg hspare.1, if_pos (Nat.le_trans (Nat.le_of_lt hp.prompt) (le_longest_of_add? hsliding))]
    omega
  · by_cases hlater : expiresAt ≤ e.session.expiresAt
    · have hkept : p.refreshed? e.session w.now = some none := by
        unfold SessionPolicy.refreshed?
        rw [if_neg hpositive, if_neg hspare, hexpiry]
        exact congrArg some (if_pos hlater)
      rw [hkept]
      refine ⟨e.session, false, w, e, rfl, h.own, h.granted, hget, enduring_unchanged h ?_⟩
      rw [Instant.le_iff_nanos_le hends h.ordinary.1] at hlater
      exact hfar.imp (fun hfar => by omega) fun hfar => ⟨hfar.1, by omega⟩
    · have hdue : p.refreshed? e.session w.now =
          some (some { e.session with expiresAt, lastRefreshedAt := w.now }) := by
        unfold SessionPolicy.refreshed?
        rw [if_neg hpositive, if_neg hspare, hexpiry]
        exact congrArg some (if_neg hlater)
      rw [hdue]
      let s' : Session := { e.session with expiresAt, lastRefreshedAt := w.now }
      obtain ⟨evictAt, hevict⟩ := add?_storeTtl (s := s') hp ht.ordinary ht.counted hends hle
      have hwritten : Enduring p t₀ w.now id csrfToken owner ⟨s', evictAt⟩ :=
        enduring_written hp h.own h.granted h.guarded h.created rfl ht.ordinary hends
          (evictionOf?_of_add? rfl hevict) hfar
      simp only [s'] at hevict
      simp only [hevict]
      refine ⟨s', true, _, ⟨s', evictAt⟩, rfl, h.own, h.granted, ?_, hwritten⟩
      show (w.sessions.insert e.session.id _).get? id = _
      rw [Table.get?_insert, if_pos h.own.symm]

lemma visit_accepted (hp : Workable sv.policy) (h₀ : Founded sv.policy t₀)
    (h : Enduring sv.policy t₀ last id csrfToken owner e) (hid : Text.isBlankText id = false)
    (hget : w.sessions.get? id = some e) (ht : Timely sv.policy t₀ last w.now)
    {m : Http.Method} {csrf : Option String}
    (hvisit : visits id csrfToken (.service (.authenticate id m csrf)) = true) :
    ∃ a w' e', w.perform (sv.authenticateSession id m csrf).run = (some (.ok a), w') ∧
      a.principal = owner ∧ a.session.id = id ∧ w'.sessions.get? id = some e' ∧
      Enduring sv.policy t₀ w.now id csrfToken owner e' := by
  have hlive := liveSession_of_enduring h₀ h hget ht (instant_le_refl w.now)
  have hverify : Csrf.verify m csrf e.session.csrfToken = true := by
    rw [Csrf.verify_iff, h.guarded]
    exact visits_iff.1 hvisit
  obtain ⟨s', written, w', e', hrun, hown, hgranted, hget', henduring⟩ := refresh_enduring hp h₀ h hget ht
  rw [perform_authenticateSession, get_of_liveSession hid hlive]
  simp only
  rw [if_pos hverify, hrun]
  exact ⟨_, w', e', rfl, hgranted, hown, hget', henduring⟩

lemma login_enduring (hp : Workable sv.policy) (h₀ : Founded sv.policy w.now) {email password : String}
    {ip : Option String} {o : LoginOutcome} {w' : World}
    (hlogin : w.perform (sv.login email password ip).run = (some (.ok o), w')) :
    Text.isBlankText o.session.id = false ∧ ∃ e, w'.sessions.get? o.session.id = some e ∧
      Enduring sv.policy w.now w.now o.session.id o.session.csrfToken o.principal e := by
  rcases login_ends sv w email password ip with ⟨result, _, _, hresult, hrun⟩ |
    ⟨limiter, userId, role, expiresAt, evictAt, hexpiry, _, hevict, hrun⟩
  · rw [hrun] at hlogin
    exact absurd (congrArg Prod.fst hlogin) (hresult o)
  · rw [hrun] at hlogin
    cases hlogin
    obtain ⟨expiresAt', hexpiry', hends, _, hfar⟩ := cappedExpiry?_of_founded h₀ h₀.ordinary h₀.counted
    obtain rfl : expiresAt = expiresAt' := Option.some.inj (hexpiry.symm.trans hexpiry')
    refine ⟨issued_not_blank _, ⟨newSession sv.policy w userId role expiresAt, evictAt⟩, ?_,
      enduring_written hp rfl rfl rfl rfl rfl h₀.ordinary hends hevict hfar⟩
    exact (Table.get?_insert _ _ _ _).trans (if_pos rfl)

/-- When a session was visited last in a run, or else created. -/
def lastVisit (id csrfToken : String) (t₀ : Instant) : List (Instant × Activity) → Instant
  | [] => t₀
  | (t, activity) :: earlier => if visits id csrfToken activity then t else lastVisit id csrfToken t₀ earlier

/-- Every visit in a run comes in time. -/
def Attended (p : SessionPolicy) (id csrfToken : String) (t₀ : Instant) : List (Instant × Activity) → Prop
  | [] => True
  | (t, activity) :: earlier =>
    Attended p id csrfToken t₀ earlier ∧
      (visits id csrfToken activity = true → Timely p t₀ (lastVisit id csrfToken t₀ earlier) t)

/-- The answer lets somebody in with a session. -/
def LetsIn (id : String) (owner : Principal) (answer : ActivityAnswer) : Prop :=
  ∃ a, answer = .service (some (.ok (.authenticated a))) ∧ a.principal = owner ∧ a.session.id = id

lemma eq_authenticate_of_visits {activity : Activity} (h : visits id csrfToken activity = true) :
    ∃ m csrf, activity = .service (.authenticate id m csrf) := by
  cases activity with
  | key step => cases h
  | purgeLimiter => cases h
  | service step =>
    cases step with
    | authenticate id' m csrf =>
      obtain rfl : id' = id := of_decide_eq_true (Bool.and_eq_true_iff.1 h).1
      exact ⟨m, csrf, rfl⟩
    | login email password ip => cases h
    | logout id' => cases h
    | purge => cases h

/-- As long as visits come in time they are let in, and until the next one in time the session is there. -/
lemma activityRun_enduring (hp : Workable sv.policy) (h₀ : Founded sv.policy t₀)
    (hst : StoreFiled sv.policy w.sessions) (hid : Text.isBlankText id = false)
    (hget : w.sessions.get? id = some e) (hentry : Enduring sv.policy t₀ t₀ id csrfToken owner e)
    (steps : List (Instant × Activity)) (hclock : Forward (steps.map Prod.fst))
    (hspared : ∀ event ∈ (activityRun sv w steps).2, spares id event = true)
    (hattended : Attended sv.policy id csrfToken t₀ steps) :
    (∀ event ∈ (activityRun sv w steps).2, visits id csrfToken event.step = true →
      LetsIn id owner event.answer) ∧
      ∀ t, (∀ r ∈ steps.map Prod.fst, r ≤ t) → Timely sv.policy t₀ (lastVisit id csrfToken t₀ steps) t →
        ∃ e, (activityRun sv w steps).1.sessions.get? id = some e ∧
          Enduring sv.policy t₀ (lastVisit id csrfToken t₀ steps) id csrfToken owner e := by
  induction steps with
  | nil => exact ⟨fun event h => absurd h List.not_mem_nil, fun t _ _ => ⟨e, hget, hentry⟩⟩
  | cons step earlier ih =>
    obtain ⟨now, activity⟩ := step
    obtain ⟨hlater, hearlier⟩ := List.pairwise_cons.1 hclock
    obtain ⟨hbefore, htimely⟩ := hattended
    obtain ⟨haccepted, hpresent⟩ :=
      ih hearlier (fun event h => hspared event (List.mem_cons_of_mem _ h)) hbefore
    have hfiled := activityRun_filed sv w hst earlier
    let before : World := { (activityRun sv w earlier).1 with now := now }
    have hrun : activityRun sv w ((now, activity) :: earlier) = ((takeActivity sv before activity).2,
        ⟨now, activity, (takeActivity sv before activity).1⟩ :: (activityRun sv w earlier).2) := rfl
    rw [hrun] at hspared ⊢
    cases hvisit : visits id csrfToken activity with
    | true =>
      obtain ⟨m, csrf, rfl⟩ := eq_authenticate_of_visits hvisit
      obtain ⟨e', hget', hentry'⟩ := hpresent now hlater (htimely hvisit)
      obtain ⟨a, w', e'', hanswer, howner, hown, hget'', hentry''⟩ :=
        visit_accepted (w := before) hp h₀ hentry' hid hget' (htimely hvisit) hvisit
      have hstep : takeActivity sv before (.service (.authenticate id m csrf)) =
          (.service (some (.ok (.authenticated a))), w') := by
        simp only [takeActivity, takeServiceStep, replying, hanswer]
        rfl
      rw [hstep]
      refine ⟨fun event hevent hv => ?_, fun t _ _ => ⟨e'', hget'', ?_⟩⟩
      · rcases List.mem_cons.1 hevent with rfl | hevent
        · exact ⟨a, rfl, howner, hown⟩
        · exact haccepted event hevent hv
      · rw [lastVisit, if_pos hvisit]
        exact hentry''
    | false =>
      rw [lastVisit, if_neg (Bool.eq_false_iff.1 hvisit)]
      refine ⟨fun event hevent hv => ?_, fun t hreadings ht => ?_⟩
      · rcases List.mem_cons.1 hevent with rfl | hevent
        · exact absurd (hvisit.symm.trans hv) Bool.false_ne_true
        · exact haccepted event hevent hv
      · obtain ⟨e', hget', hentry'⟩ := hpresent t (fun r hr => hreadings r (List.mem_cons_of_mem now hr)) ht
        -- the next visit is still to come, so the session is live now, and the others leave it alone
        have hlive := liveSession_of_enduring (w := before) h₀ hentry' hget' ht
          (hreadings now List.mem_cons_self)
        have hsame :=
          get?_of_others (w := before) hfiled hid hlive activity (by rw [hentry'.guarded]; exact hvisit)
          (hspared _ List.mem_cons_self)
        exact ⟨e', hsame.trans hget', hentry'⟩

/-- Under settings that pass the checks, a session that a login has granted is let in at every visit,
whatever else goes on, as long as nobody logs out with it, every visit comes in time after the one before,
and none comes after the hard limit. -/
theorem visits_let_in (settings : Settings) (hash : String → String) (w entered : World)
    (before later : List (Instant × Activity)) (t₀ : Instant) (email password : String) (ip : Option String)
    (o : LoginOutcome) (hvalid : settings.validate = .ok ())
    (hfounded : Founded (ofSettings settings.session) t₀)
    (hlogin : World.perform
      { (activityRun ⟨ofSettings settings.session, hash⟩ { w with sessions := Table.empty } before).1 with
        now := t₀ }
      (Service.login ⟨ofSettings settings.session, hash⟩ email password ip).run = (some (.ok o), entered))
    (hclock : Forward (later.map Prod.fst))
    (hspared : ∀ event ∈ (activityRun ⟨ofSettings settings.session, hash⟩ entered later).2,
      spares o.session.id event = true)
    (hattended : Attended (ofSettings settings.session) o.session.id o.session.csrfToken t₀ later) :
    ∀ event ∈ (activityRun ⟨ofSettings settings.session, hash⟩ entered later).2,
      visits o.session.id o.session.csrfToken event.step = true →
      LetsIn o.session.id o.principal event.answer := by
  let sv : Service := ⟨ofSettings settings.session, hash⟩
  have hp : Workable sv.policy := workable_of_validate hvalid
  have hempty : StoreFiled sv.policy ({ w with sessions := Table.empty } : World).sessions :=
    fun id e he => by cases he
  have hfiled := activityRun_filed sv _ hempty before
  have hentered : StoreFiled sv.policy entered.sessions := by
    have hstep := storeFiled_activity (w := { (activityRun sv _ before).1 with now := t₀ }) hfiled
      (.service (.login email password ip))
    simp only [takeActivity, takeServiceStep, replying, sv, hlogin] at hstep
    exact hstep
  obtain ⟨hid, e, hget, hentry⟩ := login_enduring hp hfounded hlogin
  exact (activityRun_enduring hp hfounded hentered hid hget hentry later hclock hspared hattended).1

/-- Sessions of an hour, due for a refresh twenty minutes before the end, and two hours at most. -/
def steadySettings : Settings :=
  { session := { ttlSecs := 3600, maxAgeSecs := 7200, refreshBeforeSecs := 1200 } }

def steadyService : Service := ⟨ofSettings steadySettings.session, tokenHash⟩

def steadyLogin : LoginOutcome :=
  ⟨⟨"u", "r"⟩, ⟨"ses_a", "u", "r", "aa", atSecond 10, atSecond 10, atSecond 3610⟩⟩

def steadyWorld : World :=
  (World.perform { openWorld with now := atSecond 10 } (steadyService.login "a@b" "p" none).run).2

def steadySteps : List (Instant × Activity) :=
  [(atSecond 2300, .service (.authenticate "ses_a" ⟨"POST"⟩ (some "aa"))), (atSecond 1500, .service .purge),
    (atSecond 1200, .service (.authenticate "ses_a" ⟨"GET"⟩ none))]

/-- Two visits within twenty minutes of each other, with a purge in between. -/
theorem visits_let_in_steady :
    steadySettings.validate = .ok () ∧ Founded steadyService.policy (atSecond 10) ∧
      Attended steadyService.policy "ses_a" "aa" (atSecond 10) steadySteps ∧
      ∀ event ∈ (activityRun steadyService steadyWorld steadySteps).2,
        visits "ses_a" "aa" event.step = true → LetsIn "ses_a" ⟨"u", "r"⟩ event.answer := by
  have hvalid : steadySettings.validate = .ok () := by decide
  have hfounded : Founded steadyService.policy (atSecond 10) :=
    ⟨rfl, by decide +kernel, by decide +kernel⟩
  have hattended : Attended steadyService.policy "ses_a" "aa" (atSecond 10) steadySteps :=
    ⟨⟨⟨trivial, fun _ => ⟨rfl, by decide +kernel, by decide +kernel, by decide +kernel⟩⟩, nofun⟩,
      fun _ => ⟨rfl, by decide +kernel, by decide +kernel, by decide +kernel⟩⟩
  have hlogin : World.perform { openWorld with now := atSecond 10 } (steadyService.login "a@b" "p" none).run =
      (some (.ok steadyLogin), steadyWorld) := Prod.ext (by decide +kernel) rfl
  exact ⟨hvalid, hfounded, hattended,
    visits_let_in steadySettings tokenHash openWorld steadyWorld [] steadySteps
    (atSecond 10) "a@b" "p" none steadyLogin hvalid hfounded hlogin (by decide) (by decide +kernel) hattended⟩

/-- Sessions of an hour, refreshed at every visit. -/
def hourlySettings : Settings :=
  { session := { ttlSecs := 3600, maxAgeSecs := 0, refreshBeforeSecs := 0 } }

def hourlyService : Service := ⟨ofSettings hourlySettings.session, tokenHash⟩

/-- Half a second into a leap second at the end of a day. -/
def leapReading : Instant := ⟨86399500000000, true, by decide, by decide⟩

def leapWorld : World :=
  (World.perform { openWorld with now := atSecond 86390 } (hourlyService.login "a@b" "p" none).run).2

def leapSteps : List (Instant × Activity) :=
  [(atSecond 89999, .service (.authenticate "ses_a" ⟨"GET"⟩ none)),
    (leapReading, .service (.authenticate "ses_a" ⟨"GET"⟩ none))]

/-- A visit within a leap second, and half a second short of an hour later one that is refused. -/
theorem leap_second_loses_visit :
    hourlySettings.validate = .ok () ∧ Founded hourlyService.policy (atSecond 86390) ∧
      leapReading.nanos - (atSecond 86390).nanos < pace hourlyService.policy ∧
      (atSecond 89999).nanos - leapReading.nanos < pace hourlyService.policy ∧
      leapReading.add? hourlyService.policy.ttl ≠ none ∧
      (atSecond 89999).add? hourlyService.policy.ttl ≠ none ∧
      (activityRun hourlyService leapWorld leapSteps).2.head?.map Event.answer =
        some (.service (some (.error .notAuthenticated))) :=
  ⟨by decide, ⟨rfl, by decide +kernel, by decide +kernel⟩, by decide +kernel, by decide +kernel,
    by decide +kernel, by decide +kernel, by decide +kernel⟩

end Gatehouse.Proofs
