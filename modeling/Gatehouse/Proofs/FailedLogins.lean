import Gatehouse.Proofs.CookieText
import Gatehouse.Proofs.RequestCalls
import Gatehouse.Proofs.Throttle

/-!
# What failed logins tell

A login that fails tells nothing about who is on file. Whatever it was that was wrong, it ends as a login
does that looks nobody up, with the same response and with the same attempts counted. Two sites that differ
in their users only can therefore not be told apart by logins that fail.
-/

namespace Gatehouse.Proofs
open Service Attempt SessionPolicy

variable {site : Site} {w : World} {req : Http.Request} {users users₁ users₂ : UserStore}

/-- A request to log in that is refused once it is admitted, without a look at its credentials. -/
def turnAway (site : Site) (req : Http.Request) : Procedure Http.Response := respond do
  if maxLoginBytes < req.body.length then throw (.invalidInput "invalid request body")
  let payload ← readMessage LoginRequest.ofJson? req.body
  admission (normalEmail payload.email) (Text.trim payload.password) (clientAddress? site.trustProxy req)
  throw wrongCredentials

/-- A session that is created now can be reckoned with: its end, and how long a store is to keep it. -/
def Creatable (p : SessionPolicy) (now : Instant) : Prop :=
  ∃ expiresAt, p.cappedExpiry? now now = some expiresAt ∧
    now.add? (max (expiresAt.since now) 1000000000) ≠ none

lemma create_of_creatable {p : SessionPolicy} (h : Creatable p w.now) (userId role : String) :
    ∃ expiresAt evictAt, p.cappedExpiry? w.now w.now = some expiresAt ∧
      w.perform (p.create userId role).run =
        (some (.ok (newSession p w userId role expiresAt)),
          fileSession (drawTokens w) (newSession p w userId role expiresAt) evictAt) := by
  obtain ⟨expiresAt, hexpiry, hevict⟩ := h
  obtain ⟨evictAt, hevict⟩ := Option.ne_none_iff_exists'.1 hevict
  refine ⟨expiresAt, evictAt, hexpiry, ?_⟩
  have hspan : w.now.add? (storeTtl (newSession p w userId role expiresAt) w.now) = some evictAt := by
    rw [storeTtl_eq]
    exact hevict
  rw [perform_create, hexpiry]
  simp only [hspan]

/-- Whose credentials these are. -/
def ownerOf? (w : World) (email password : String) : Option User :=
  (w.users.findByEmail? email).filter fun user => w.verify password user.passwordHash

lemma examined_cases {sv : Service} (h : Creatable sv.policy w.now) (email password : String) :
    (ownerOf? w email password = none ∧ examined sv email password w = (some (.error wrongCredentials), w)) ∨
      ∃ user expiresAt evictAt, ownerOf? w email password = some user ∧
        sv.policy.cappedExpiry? w.now w.now = some expiresAt ∧
        examined sv email password w =
          (some (.ok ⟨⟨user.id, user.role⟩, newSession sv.policy w user.id user.role expiresAt⟩),
            fileSession (drawTokens w) (newSession sv.policy w user.id user.role expiresAt) evictAt) := by
  unfold examined ownerOf?
  cases (w.users.findByEmail? email).filter fun user => w.verify password user.passwordHash with
  | none => exact Or.inl ⟨rfl, rfl⟩
  | some user =>
    obtain ⟨expiresAt, evictAt, hexpiry, hcreate⟩ := create_of_creatable h user.id user.role
    refine Or.inr ⟨user, expiresAt, evictAt, rfl, hexpiry, ?_⟩
    dsimp only
    rw [hcreate]
    rfl

/-- A request to log in is answered with a session, or as if nobody had been looked up. -/
lemma login_turned_away (hcookie : Renderable site.cookie)
    (htokens : ∀ n bytes, Sendable (w.tokens.text n bytes)) (hrange : Creatable site.service.policy w.now)
    (hfailed : (w.perform (site.login req)).1.map Http.Response.status ≠ some 200) :
    w.perform (site.login req) = w.perform (turnAway site req) := by
  unfold turnAway
  rw [perform_respond]
  rw [perform_loginRequest] at hfailed ⊢
  by_cases hlong : maxLoginBytes < req.body.length
  · simp only [if_pos hlong, throw_bind_attempt]
    rfl
  simp only [if_neg hlong] at hfailed ⊢
  unfold readMessage
  generalize (Json.ofBytes? req.body).bind LoginRequest.ofJson? = sent at hfailed ⊢
  cases sent with
  | none => rfl
  | some payload =>
    simp only [pure_bind, perform_bind, perform_login] at hfailed ⊢
    obtain ⟨admitted, limiter, hadmission⟩ := admission_world w (normalEmail payload.email)
      (Text.trim payload.password) (clientAddress? site.trustProxy req)
    rw [hadmission] at hfailed ⊢
    cases admitted with
    | none => rfl
    | some admitted =>
      cases admitted with
      | error e => rfl
      | ok _ =>
        dsimp only at hfailed ⊢
        rcases examined_cases (w := { w with limiter }) hrange (normalEmail payload.email)
          (Text.trim payload.password) with ⟨_, hwrong⟩ | ⟨user, expiresAt, evictAt, _, _, hright⟩
        · rw [hwrong]
          rfl
        · rw [hright] at hfailed
          let s := newSession site.service.policy { w with limiter } user.id user.role expiresAt
          have hid : Sendable s.id := newSession_sendable (w := { w with limiter }) htokens _ _ _ expiresAt
          have hwrite := write_of_renderable hcookie hid s.expiresAt w.now
          have hanswer := loginAnswered_of_write (o := ⟨⟨user.id, user.role⟩, s⟩)
            (w := fileSession (drawTokens { w with limiter }) s evictAt) hwrite
          rw [hanswer] at hfailed
          exact absurd rfl hfailed

lemma answer_otherUsers {c : Call} (hc : isLookup c = false) (w : World) (users : UserStore) :
    World.answer c { w with users } = ((World.answer c w).1, { (World.answer c w).2 with users }) := by
  cases c with
  | findUser email => cases hc
  | saveSession s ttl =>
    simp only [World.answer, World.saveSession]
    split <;> rfl
  | attempt key =>
    simp only [World.answer, World.attempt]
    split <;> rfl
  | insertKey k =>
    simp only [World.answer, World.insertKey]
    split <;> rfl
  | _ => rfl

lemma perform_otherUsers {α : Type} {p : Procedure α} (h : Only (fun c => isLookup c = false) p) (w : World)
    (users : UserStore) :
    World.perform { w with users } p = ((w.perform p).1, { (w.perform p).2 with users }) :=
  only_commutes (fun _ w hc => answer_otherUsers hc w users) h w

lemma only_admission (email password : String) (ip : Option String) :
    Only (fun c => isLookup c = false) (admission email password ip).run := by
  unfold admission
  dsimp only
  split
  · exact .done _
  split
  · exact .done _
  cases addressKey? ip with
  | none => exact only_charge rfl
  | some key => exact only_bind (only_charge rfl) fun _ => only_charge rfl

lemma only_turnAway (site : Site) (req : Http.Request) :
    Only (fun c => isLookup c = false) (turnAway site req) := by
  unfold turnAway
  refine only_respond ?_
  split
  · exact .done _
  · exact only_bind (only_readMessage _ _) fun payload => only_bind (only_admission _ _ _) fun _ => .done _

lemma handle_turned_away (hpost : req.method = .post) (hpath : req.path = "/auth/login".toList)
    (hcookie : Renderable site.cookie) (htokens : ∀ n bytes, Sendable (w.tokens.text n bytes))
    (hrange : Creatable site.service.policy w.now)
    (hfailed : (World.perform { w with users } (site.handle req)).1.map Http.Response.status ≠ some 200) :
    World.perform { w with users } (site.handle req) =
      ((w.perform (turnAway site req)).1.map (Site.finish false),
        { (w.perform (turnAway site req)).2 with users }) := by
  rw [perform_loginHandle hpost hpath] at hfailed ⊢
  have hlogin : World.perform { w with users } (site.login req) =
      World.perform { w with users } (turnAway site req) := by
    refine login_turned_away hcookie htokens hrange fun hsuccess => hfailed ?_
    rw [Option.map_map]
    exact hsuccess
  rw [hlogin, perform_otherUsers (only_turnAway site req)]

/-- Every request of a run is one to log in. -/
def LoginsOnly (steps : List (Instant × SiteStep)) : Prop :=
  ∀ x ∈ steps, ∀ req, x.2 = .request req → req.method = .post ∧ req.path = "/auth/login".toList

/-- No request is answered with success. -/
def Failing (events : List SiteEvent) : Prop :=
  ∀ event ∈ events, event.answer.response.map Http.Response.status ≠ some 200

instance (events : List SiteEvent) : Decidable (Failing events) :=
  inferInstanceAs (Decidable (∀ event ∈ events, _ ≠ _))

def responsesOf (events : List SiteEvent) : List (Option Http.Response) :=
  events.map fun event => event.answer.response

/-- Two sites as they are after runs, the one like the other but for the users. -/
structure Alike (text : Nat → Nat → String) (users₁ users₂ : UserStore)
    (run₁ run₂ : World × List SiteEvent) : Prop where
  worlds : ∃ w : World, run₁.1 = { w with users := users₁ } ∧ run₂.1 = { w with users := users₂ } ∧
    w.tokens.text = text
  responses : responsesOf run₁.2 = responsesOf run₂.2

lemma purgeLimiter_otherUsers (w : World) (users : UserStore) :
    World.purgeLimiter { w with users } = (w.purgeLimiter.1, { w.purgeLimiter.2 with users }) := by
  obtain ⟨now, tokens, sessions, keys, users', limiter, verify⟩ := w
  cases limiter <;> rfl

lemma alike_step (hcookie : Renderable site.cookie) (htokens : ∀ n bytes, Sendable (w.tokens.text n bytes))
    (hrange : Creatable site.service.policy w.now) {step : SiteStep}
    (hlogin : ∀ req, step = .request req → req.method = .post ∧ req.path = "/auth/login".toList)
    (hfailed₁ : (takeSiteStep site { w with users := users₁ } step).1.response.map Http.Response.status ≠
      some 200)
    (hfailed₂ : (takeSiteStep site { w with users := users₂ } step).1.response.map Http.Response.status ≠
      some 200) :
    (takeSiteStep site { w with users := users₁ } step).1.response =
        (takeSiteStep site { w with users := users₂ } step).1.response ∧
      ∃ w' : World, (takeSiteStep site { w with users := users₁ } step).2 = { w' with users := users₁ } ∧
        (takeSiteStep site { w with users := users₂ } step).2 = { w' with users := users₂ } ∧
        w'.tokens.text = w.tokens.text := by
  cases step with
  | request req =>
    obtain ⟨hpost, hpath⟩ := hlogin req rfl
    have hanswer₁ := handle_turned_away hpost hpath hcookie htokens hrange hfailed₁
    have hanswer₂ := handle_turned_away hpost hpath hcookie htokens hrange hfailed₂
    simp only [takeSiteStep, hanswer₁, hanswer₂]
    exact ⟨trivial, _, rfl, rfl, text_perform w (turnAway site req)⟩
  | purgeSessions => exact ⟨rfl, w.purgeSessions.2, rfl, rfl, rfl⟩
  | purgeLimiter =>
    simp only [takeSiteStep, purgeLimiter_otherUsers]
    exact ⟨trivial, _, rfl, rfl, text_purgeLimiter w⟩

lemma siteRun_alike (hcookie : Renderable site.cookie) (htokens : ∀ n bytes, Sendable (w.tokens.text n bytes))
    (steps : List (Instant × SiteStep)) (hlogins : LoginsOnly steps)
    (hrange : ∀ r ∈ steps.map Prod.fst, Creatable site.service.policy r)
    (hfailed₁ : Failing (siteRun site { w with users := users₁ } steps).2)
    (hfailed₂ : Failing (siteRun site { w with users := users₂ } steps).2) :
    ∀ earlier, earlier <:+ steps → Alike w.tokens.text users₁ users₂
      (siteRun site { w with users := users₁ } earlier)
      (siteRun site { w with users := users₂ } earlier) := by
  induction steps with
  | nil =>
    intro earlier hsuffix
    rw [List.suffix_nil.1 hsuffix]
    exact ⟨⟨w, rfl, rfl, rfl⟩, rfl⟩
  | cons last steps ih =>
    obtain ⟨t, step⟩ := last
    have hbefore := ih (fun x hx => hlogins x (List.mem_cons_of_mem _ hx))
      (fun r hr => hrange r (List.mem_cons_of_mem t hr))
      (fun event hevent => hfailed₁ event (List.mem_cons_of_mem _ hevent))
      (fun event hevent => hfailed₂ event (List.mem_cons_of_mem _ hevent))
    intro earlier hsuffix
    rcases List.suffix_cons_iff.1 hsuffix with rfl | hsuffix
    · obtain ⟨⟨v, hworld₁, hworld₂, htext⟩, hresponses⟩ := hbefore steps List.suffix_rfl
      rw [siteRun_cons, hworld₁] at hfailed₁ ⊢
      rw [siteRun_cons, hworld₂] at hfailed₂ ⊢
      obtain ⟨hresponse, v', hworld₁', hworld₂', htext'⟩ := alike_step (w := { v with now := t }) hcookie
        (by rw [htext]; exact htokens) (hrange t List.mem_cons_self) (hlogins (t, step) List.mem_cons_self)
        (hfailed₁ _ List.mem_cons_self) (hfailed₂ _ List.mem_cons_self)
      exact ⟨⟨v', hworld₁', hworld₂', htext'.trans htext⟩, List.cons_eq_cons.2 ⟨hresponse, hresponses⟩⟩
    · exact hbefore earlier hsuffix

/-- Let two sites be alike but for the users on file, and let any number of requests to log in come to both,
at any readings of the clock. If none of them succeeds on either site, every one of them is answered alike,
and after every one of them the sites have the same sessions, the same keys and the same counters. -/
theorem failed_logins_alike (site : Site) (w : World) (users₁ users₂ : UserStore)
    (steps : List (Instant × SiteStep)) (hlogins : LoginsOnly steps) (hcookie : Renderable site.cookie)
    (htokens : ∀ n bytes, Sendable (w.tokens.text n bytes))
    (hrange : ∀ r ∈ steps.map Prod.fst, Creatable site.service.policy r)
    (hfailed₁ : Failing (siteRun site { w with users := users₁ } steps).2)
    (hfailed₂ : Failing (siteRun site { w with users := users₂ } steps).2) :
    ∀ earlier, earlier <:+ steps →
      let run₁ := siteRun site { w with users := users₁ } earlier
      let run₂ := siteRun site { w with users := users₂ } earlier
      responsesOf run₁.2 = responsesOf run₂.2 ∧ run₁.1.sessions = run₂.1.sessions ∧
      run₁.1.keys = run₂.1.keys ∧
        run₁.1.limiter = run₂.1.limiter := by
  intro earlier hsuffix run₁ run₂
  obtain ⟨⟨v, hworld₁, hworld₂, _⟩, hresponses⟩ :=
    siteRun_alike hcookie htokens steps hlogins hrange hfailed₁ hfailed₂ earlier hsuffix
  refine ⟨hresponses, ?_, ?_, ?_⟩
  · rw [hworld₁, hworld₂]
  · rw [hworld₁, hworld₂]
  · rw [hworld₁, hworld₂]

/-- A world in which a password is its own hash. -/
def plainWorld : World :=
  { openWorld with
    verify := fun password hash => password = hash
    limiter := some (Limiter.start pairPerMinute .epoch) }

def guessingSteps : List (Instant × SiteStep) :=
  [(atSecond 9, .request (loginRequest "a@b")), (atSecond 8, .request (loginRequest "b@a")),
    (atSecond 7, .purgeLimiter), (atSecond 6, .request (loginRequest "a@b"))]

/-- A password that is wrong looks like an address that nobody has, and so does an attempt too many. -/
theorem failed_logins_alike_guessing :
    let run₁ := siteRun hourSite { plainWorld with users := openWorld.users } guessingSteps
    let run₂ := siteRun hourSite { plainWorld with users := Table.empty } guessingSteps
    Failing run₁.2 ∧ Failing run₂.2 ∧ responsesOf run₁.2 = responsesOf run₂.2 ∧
    run₁.1.limiter = run₂.1.limiter := by
  intro run₁ run₂
  have hlogins : LoginsOnly guessingSteps := by
    intro x hx req hreq
    simp only [guessingSteps, List.mem_cons, List.not_mem_nil, or_false] at hx
    rcases hx with rfl | rfl | rfl | rfl <;> cases hreq <;> exact ⟨rfl, rfl⟩
  have hcookie : Renderable hourSite.cookie := ⟨by decide, by decide, fun d hd => by cases hd⟩
  have htokens : ∀ n bytes, Sendable (plainWorld.tokens.text n bytes) := fun n bytes =>
    sendable_of_word (countedTokens_word n bytes)
  have hrange : ∀ r ∈ guessingSteps.map Prod.fst, Creatable hourSite.service.policy r := by
    intro r hr
    simp only [guessingSteps, List.map_cons, List.map_nil, List.mem_cons, List.not_mem_nil, or_false] at hr
    rcases hr with rfl | rfl | rfl | rfl
    · exact ⟨atSecond 3609, by decide +kernel, by decide +kernel⟩
    · exact ⟨atSecond 3608, by decide +kernel, by decide +kernel⟩
    · exact ⟨atSecond 3607, by decide +kernel, by decide +kernel⟩
    · exact ⟨atSecond 3606, by decide +kernel, by decide +kernel⟩
  have hfailed₁ : Failing run₁.2 := by decide +kernel
  have hfailed₂ : Failing run₂.2 := by decide +kernel
  obtain ⟨hresponses, _, _, hlimiter⟩ := failed_logins_alike hourSite plainWorld openWorld.users Table.empty
    guessingSteps hlogins hcookie htokens hrange hfailed₁ hfailed₂ guessingSteps List.suffix_rfl
  exact ⟨hfailed₁, hfailed₂, hresponses, hlimiter⟩

end Gatehouse.Proofs
