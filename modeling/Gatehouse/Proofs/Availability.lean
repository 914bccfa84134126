import Gatehouse.Proofs.ClockRange
import Gatehouse.Proofs.DrawnTokens

/-!
# Requests are always answered

A site that keeps everything in memory never fails from within. If the clock does not go beyond the year
9000 and no length of time exceeds a century, everything that is reckoned with stays in range; and if no
token comes twice, every new session and every new key can be stored. So every request gets a response, and
none tells of an internal failure.
-/

namespace Gatehouse.Proofs
open Service Attempt SessionPolicy

variable {ε α β : Type} {site : Site} {sv : Service} {p : SessionPolicy} {w : World}
  {req : Http.Request} {t : Instant} {tokens older : List String}

/-- A hundred years, a leap day in every fourth of them. -/
def century : Span := Span.ofSecs (36525 * 86400)

/-- An instant of the year 9000 or before. -/
def Early (t : Instant) : Prop := Time.yearOfDay t.dayNumber ≤ 9000

instance (t : Instant) : Decidable (Early t) := inferInstanceAs (Decidable (_ ≤ _))

/-- A policy under which sessions last for a century at most. -/
structure Modest (p : SessionPolicy) : Prop where
  ttl : p.ttl ≤ century
  maxAge : p.maxAge ≤ century

lemma nanos_of_early (h : Early t) : t.nanos < 221876928000000000000 :=
  Int.lt_of_lt_of_le (nanos_lt_of_year h) (by decide)

lemma reckoned_le {d : Span} (hd : d ≤ century) : reckoned d ≤ 3155760000000000000 := by
  unfold SessionPolicy.reckoned
  split
  · exact Int.ofNat_le.2 hd
  · decide

lemma add?_of_early (h : Early t) {d : Int} (hd : 0 ≤ d) (hle : d ≤ 3155760000000000000) :
    ∃ u, t.add? d = some u := by
  have hnanos := nanos_of_early h
  exact add?_of_le hd (by omega)

lemma inRange_of_early (h : Early t) (hp : Modest p) : InRange p t := by
  have hnanos := nanos_of_early h
  have hle := reckoned_le hp.ttl
  exact inRange_of_room (by omega)

lemma creatable_of_early (h : Early t) (hp : Modest p) : Creatable p t := by
  obtain ⟨sliding, hsliding, hkept⟩ := inRange_of_early h hp
  obtain ⟨expiresAt, hexpiry⟩ := cappedExpiry?_of_add? hsliding fun _ =>
    add?_of_early h (reckoned_nonneg p.maxAge) (reckoned_le hp.maxAge)
  exact ⟨expiresAt, hexpiry, hkept expiresAt (cappedExpiry?_le hexpiry hsliding)⟩

/-- A refusal that can be told, and that is no failure from within. -/
def Tellable (e : AuthError) : Prop := ∃ r, e.response? = some r ∧ r.status ≠ 500

lemma status_ne {kind : ErrorKind} (h : kind ≠ .internal) : kind.status ≠ 500 := by
  cases kind with
  | internal => exact absurd rfl h
  | _ => decide

lemma tellable_of_plain {e : AuthError} (hretry : e.retryAfter? = none) (hkind : e.kind ≠ .internal) :
    Tellable e := by
  unfold Tellable AuthError.response?
  dsimp only
  rw [hretry]
  exact ⟨_, rfl, status_ne hkind⟩

/-- No distance of two instants is too long to be told. -/
lemma tellable_tooMany (t u : Instant) : Tellable (.tooMany (t.since u).toNat) := by
  have hfits : Span.secsUp (t.since u).toNat < Nat.pow 2 64 := by
    have hlt := since_lt t u
    show ((t.since u).toNat + (1000000000 - 1)) / 1000000000 < 18446744073709551616
    omega
  unfold Tellable AuthError.response? retryAfterSecs?
  simp only [AuthError.tooMany, AuthError.retryAfter?, if_pos hfits, Option.map_some]
  exact ⟨_, rfl, status_ne (by decide : ErrorKind.rateLimited ≠ .internal)⟩

/-- An attempt that comes to an end, and if that is a refusal, to one that can be told. -/
def Settles (r : Option (Except AuthError α) × World) : Prop :=
  ∃ ended, r.1 = some ended ∧ ∀ e, ended = .error e → Tellable e

lemma settles_ok (a : α) (w : World) : Settles (some (.ok a), w) := ⟨_, rfl, fun e he => by cases he⟩

lemma settles_error {e : AuthError} (h : Tellable e) (w : World) :
    Settles ((some (.error e), w) : Option (Except AuthError α) × World) :=
  ⟨_, rfl, fun e he => by cases he; exact h⟩

lemma settles_bind {p : Attempt AuthError α} {f : α → Attempt AuthError β} (h : Settles (w.perform p.run))
    (hf : ∀ a w', w.perform p.run = (some (.ok a), w') → Settles (w'.perform (f a).run)) :
    Settles (w.perform (p >>= f).run) := by
  rw [perform_bind]
  generalize w.perform p.run = ending at h hf
  obtain ⟨ended, w'⟩ := ending
  obtain ⟨ended, rfl, htellable⟩ := h
  cases ended with
  | ok a => exact hf a w' rfl
  | error e => exact settles_error (htellable e rfl) w'

/-- Attempts can be counted: the end of a window that opens now can be reckoned with. -/
def Countable (w : World) : Prop :=
  ∀ window, w.limiter.map Limiter.window = some window → w.now.add? window.window ≠ none

lemma window_perform (w : World) (p : Procedure α) :
    (w.perform p).2.limiter.map Limiter.window = w.limiter.map Limiter.window :=
  only_keeps (f := fun w => w.limiter.map Limiter.window) (fun c w _ => window_answer c w) (only_any p) w

lemma countable_perform (h : Countable w) (p : Procedure α) : Countable (w.perform p).2 := by
  unfold Countable
  rw [window_perform, now_perform]
  exact h

lemma charge_settles (h : Countable w) (key : String) : Settles (w.perform (charge key).run) := by
  unfold charge
  simp only [perform_bind, perform_ask, World.answer, World.attempt]
  cases hl : w.limiter with
  | none => exact settles_ok () _
  | some l =>
    obtain ⟨ends, hends⟩ := Option.ne_none_iff_exists'.1 (h l.window (by rw [hl]; rfl))
    simp only [attempt_eq key hends, Option.map_some, perform_orTell, mapError_ok]
    generalize Counter.charge _ w.now ends = c
    unfold Limiter.verdict
    dsimp only
    cases decide (c.count ≤ l.window.limit.toNat) with
    | false => exact settles_error (tellable_tooMany c.resetsAt w.now) _
    | true => exact settles_ok () _

lemma admission_settles (h : Countable w) (email password : String) (ip : Option String) :
    Settles (w.perform (admission email password ip).run) := by
  have hinvalid : ∀ message, Tellable (.invalidInput message) := fun _ => tellable_of_plain rfl nofun
  unfold admission
  dsimp only
  split
  · exact settles_error (hinvalid _) w
  split
  · exact settles_error (hinvalid _) w
  cases addressKey? ip with
  | none => exact charge_settles h (emailKey email)
  | some key =>
    refine settles_bind (charge_settles h key) fun _ w' hrun => ?_
    have hcountable := countable_perform h (charge key).run
    rw [hrun] at hcountable
    exact charge_settles hcountable (emailKey email)

lemma login_settles (h : Countable w) (hcreatable : Creatable sv.policy w.now) (email password : String)
    (ip : Option String) : Settles (w.perform (sv.login email password ip).run) := by
  rw [login_eq]
  refine settles_bind (admission_settles h _ _ ip) fun _ w' hrun => ?_
  have hnow := now_perform w (admission (normalEmail email) (Text.trim password) ip).run
  rw [hrun] at hnow
  rw [perform_examination]
  rcases examined_cases (hnow ▸ hcreatable) (normalEmail email) (Text.trim password) with ⟨_, hwrong⟩ |
    ⟨user, expiresAt, evictAt, _, _, hright⟩
  · rw [hwrong]
    exact settles_error (e := wrongCredentials) (tellable_of_plain rfl (by decide)) w'
  · rw [hright]
    exact settles_ok _ _

/-- A look-up does not break down: whatever is filed was created at a time from which its hard limit can be
reckoned with. -/
lemma get_of_filed (hst : StoreFiled p w.sessions) (id : String) :
    (∃ w', w.perform (p.get id).run = (some (.error .notFound), w')) ∨
      ∃ s, w.perform (p.get id).run = (some (.ok s), w) ∧ Bounded p s ∧ w.now ≤ s.expiresAt := by
  rw [perform_get]
  split
  · exact Or.inl ⟨w, rfl⟩
  cases hfound : w.sessions.get? id with
  | none => exact Or.inl ⟨w, rfl⟩
  | some e =>
    have hbounded := (hst id e hfound).bounded
    obtain ⟨past, hpast⟩ := Option.ne_none_iff_exists'.1 (pastMaxAge?_of_bounded hbounded w.now)
    dsimp only
    rw [hpast]
    split
    · dsimp only
      split
      · exact Or.inl ⟨_, rfl⟩
      · rename_i hlive
        rw [Bool.or_eq_true, not_or] at hlive
        exact Or.inr ⟨e.session, rfl, hbounded, instant_not_lt.1 fun hlt => hlive.2 (decide_eq_true hlt)⟩
    · exact Or.inl ⟨_, rfl⟩

lemma authenticate_settles (hst : StoreFiled sv.policy w.sessions)
    (hrange : InRange sv.policy w.now) (id : String) (m : Http.Method) (csrf : Option String) :
    Settles (w.perform (sv.authenticateSession id m csrf).run) := by
  rw [perform_authenticateSession]
  rcases get_of_filed hst id with ⟨w', hget⟩ | ⟨s, hget, hbounded, hend⟩
  · rw [hget]
    exact settles_error (e := .notAuthenticated) (tellable_of_plain rfl (by decide)) w'
  · rw [hget]
    dsimp only
    split
    · obtain ⟨s', refreshed, w', hrun, _⟩ := refresh_of_inRange hbounded hend hrange
      rw [hrun]
      exact settles_ok _ w'
    · exact settles_error (e := .notAllowed) (tellable_of_plain rfl (by decide)) w

/-- A world in which every request can be answered. The keys in it are made from certain tokens. -/
structure Ready (site : Site) (tokens : List String) (w : World) : Prop where
  early : Early w.now
  counted : ∀ window, w.limiter.map Limiter.window = some window → window.window ≤ century
  filed : StoreFiled site.service.policy w.sessions
  made : MadeFrom site.service.hash tokens w.keys

/-- A request got a response that tells of no internal failure, and the next one will get one too. -/
structure Served (site : Site) (tokens : List String) (r : Option Http.Response × World) : Prop where
  answered : ∃ response, r.1 = some response ∧ response.status ≠ 500
  ready : Ready site tokens r.2

/-- A procedure that serves requests wherever they can be served, as long as the tokens that it draws are
new. -/
def Serves (site : Site) (p : Procedure Http.Response) : Prop :=
  ∀ (older : List String) (w : World), Ready site older w →
    WellDrawn site.service.hash (drawnBy w p ++ older) → Served site (drawnBy w p ++ older) (w.perform p)

lemma countable_of_ready (h : Ready site tokens w) : Countable w := by
  intro window hwindow
  obtain ⟨ends, hends⟩ :=
    add?_of_early h.early (Int.natCast_nonneg window.window) (Int.ofNat_le.2 (h.counted window hwindow))
  rw [hends]
  exact Option.some_ne_none ends

lemma ready_subset (h : Ready site older w) (hmore : older ⊆ tokens) : Ready site tokens w :=
  ⟨h.early, h.counted, h.filed, madeFrom_subset h.made hmore⟩

/-- Of what a request changes, only the sessions and the keys have to be looked at. -/
lemma ready_perform (h : Ready site older w) (p : Procedure α)
    (hfiled : StoreFiled site.service.policy (w.perform p).2.sessions)
    (hmade : MadeFrom site.service.hash tokens (w.perform p).2.keys) : Ready site tokens (w.perform p).2 where
  early := by
    rw [now_perform]
    exact h.early
  counted := by
    rw [window_perform]
    exact h.counted
  filed := hfiled
  made := hmade

lemma ready_login (h : Ready site older w) (email password : String) (ip : Option String) :
    Ready site older (w.perform (site.service.login email password ip).run).2 := by
  refine ready_perform h _ (storeFiled_login h.filed email password ip) ?_
  rw [keys_perform (only_login site.service email password ip)]
  exact h.made

lemma ready_authenticate (h : Ready site older w) (id : String) (m : Http.Method) (csrf : Option String) :
    Ready site older (w.perform (site.service.authenticateSession id m csrf).run).2 := by
  refine ready_perform h _ (storeFiled_touched h.filed (authenticate_touches h.filed id m csrf)) ?_
  rw [keys_perform
    (only_mono (fun _ => ofLogins_of_ofSessions) (only_authenticateSession site.service id m csrf))]
  exact h.made

lemma served_refused (h : Ready site older w) (hmore : older ⊆ tokens) {e : AuthError} (he : Tellable e) :
    Served site tokens (e.response?, w) :=
  ⟨he, ready_subset h hmore⟩

lemma served_map {r : Option Http.Response × World} (h : Served site tokens r)
    {g : Http.Response → Http.Response} (hg : ∀ response, (g response).status = response.status) :
    Served site tokens (r.1.map g, r.2) := by
  obtain ⟨⟨response, hresponse, hstatus⟩, hready⟩ := h
  refine ⟨⟨g response, by rw [hresponse]; rfl, ?_⟩, hready⟩
  rw [hg]
  exact hstatus

lemma served_subset {r : Option Http.Response × World} (h : Served site older r) (hmore : older ⊆ tokens) :
    Served site tokens r :=
  ⟨h.answered, ready_subset h.ready hmore⟩

lemma serves_done {response : Http.Response} (h : response.status ≠ 500) : Serves site (.done response) :=
  fun older _ hw _ => ⟨⟨response, rfl, h⟩, ready_subset hw (List.subset_append_right _ older)⟩

lemma serves_listKeys (owner : Principal) : Serves site (Site.listKeys owner) := by
  intro older w hw _
  rw [perform_listKeysRequest]
  exact ⟨⟨_, rfl, (by decide : 200 ≠ 500)⟩, ready_subset hw (List.subset_append_right _ older)⟩

lemma serves_revokeKey (segment : List Char) (owner : Principal) :
    Serves site (Site.revokeKey segment owner) := by
  intro older w hw _
  have hmore : older ⊆ drawnBy w (Site.revokeKey segment owner) ++ older := List.subset_append_right _ older
  rw [perform_revokeKeyRequest]
  cases Http.segmentText? segment with
  | none => exact ⟨⟨_, rfl, (by decide : 400 ≠ 500)⟩, ready_subset hw hmore⟩
  | some name =>
    dsimp only
    split
    · exact served_refused hw hmore (tellable_of_plain rfl nofun)
    split
    · exact served_refused hw hmore (tellable_of_plain rfl nofun)
    · refine ⟨⟨_, rfl, (by decide : 204 ≠ 500)⟩, ready_subset ?_ hmore⟩
      dsimp only
      split
      · exact hw
      · exact ⟨hw.early, hw.counted, hw.filed, madeFrom_revoke hw.made _ w.now⟩

lemma serves_createKey (req : Http.Request) (owner : Principal) : Serves site (site.createKey req owner) := by
  intro older w hw hdrawn
  have hmore : older ⊆ drawnBy w (site.createKey req owner) ++ older := List.subset_append_right _ older
  rw [perform_createKeyRequest]
  by_cases hlong : maxBodyBytes < req.body.length
  · rw [if_pos hlong]
    exact ⟨⟨_, rfl, (by decide : 413 ≠ 500)⟩, ready_subset hw hmore⟩
  rw [if_neg hlong]
  cases hpayload : (Json.ofBytes? req.body).bind CreateKeyRequest.ofJson? with
  | none => exact served_refused hw hmore (tellable_of_plain rfl nofun)
  | some payload =>
    dsimp only
    cases hscope : Scope.ofText payload.scope with
    | error e =>
      obtain rfl := scope_refusal hscope
      exact served_refused hw hmore (tellable_of_plain rfl nofun)
    | ok scope =>
      have hfirst := (createKeyRequest_draws site w owner hlong hpayload hscope).append_right older
      obtain ⟨keys, hinsert, hmade⟩ :=
        insert_of_drawn hw.made (wellDrawn_sublist hdrawn hfirst) owner payload.name scope
      dsimp only
      rw [hinsert]
      exact ⟨⟨_, rfl, (by decide : 201 ≠ 500)⟩, hw.early, hw.counted, hw.filed,
        madeFrom_subset hmade hfirst.subset⟩

lemma sendable_of_drawn {hash : String → String} (h : WellDrawn hash tokens) {t : String} (ht : t ∈ tokens) :
    Sendable ("ses_" ++ t) :=
  (sendable_append _ _).2 ⟨by decide, sendable_of_word fun c hc => isWordChar_of_hex (h.hex t ht c hc)⟩

lemma loginAnswered_served (hcookie : Renderable site.cookie)
    {r : Option (Except AuthError LoginOutcome) × World} (hsettles : Settles r)
    (hready : Ready site tokens r.2) (hnamed : ∀ o, r.1 = some (.ok o) → Sendable o.session.id) :
    Served site tokens (loginAnswered site r) := by
  obtain ⟨ended, w'⟩ := r
  obtain ⟨ended, rfl, htellable⟩ := hsettles
  cases ended with
  | error e => exact ⟨htellable e rfl, hready⟩
  | ok o =>
    rw [loginAnswered_of_write (write_of_renderable hcookie (hnamed o rfl) o.session.expiresAt w'.now)]
    exact ⟨⟨_, rfl, (by decide : 200 ≠ 500)⟩, hready⟩

lemma serves_login (hcookie : Renderable site.cookie) (hp : Modest site.service.policy) (req : Http.Request) :
    Serves site (site.login req) := by
  intro older w hw hdrawn
  have hmore : older ⊆ drawnBy w (site.login req) ++ older := List.subset_append_right _ older
  rw [perform_loginRequest]
  by_cases hlong : maxLoginBytes < req.body.length
  · rw [if_pos hlong]
    exact served_refused hw hmore (tellable_of_plain rfl nofun)
  rw [if_neg hlong]
  cases hpayload : (Json.ofBytes? req.body).bind LoginRequest.ofJson? with
  | none => exact served_refused hw hmore (tellable_of_plain rfl nofun)
  | some payload =>
    refine loginAnswered_served hcookie ?_ (ready_subset (ready_login hw _ _ _) hmore) fun o ho => ?_
    · exact login_settles (countable_of_ready hw) (creatable_of_early hw.early hp) _ _ _
    · obtain ⟨t, ht, hid⟩ := login_draws ho
      rw [hid]
      exact sendable_of_drawn hdrawn
        (List.mem_append_left _ ((loginRequest_draws site w hlong hpayload).subset ht))

lemma serves_logout (req : Http.Request) : Serves site (site.logout req) := by
  intro older w hw _
  have hstatus : (farewell site).status = 204 := by
    unfold farewell
    split <;> rfl
  rw [perform_logoutRequest]
  refine ⟨⟨_, rfl, by rw [hstatus]; decide⟩, ready_subset ?_ (List.subset_append_right _ older)⟩
  dsimp only
  split
  · exact hw
  split
  · exact hw
  · exact ⟨hw.early, hw.counted, storeFiled_erase hw.filed _, hw.made⟩

section
variable {route : Principal → Procedure Http.Response} {id : String} {a : SessionAuth} {w' : World}

lemma guardKeys_draws (route : Principal → Procedure Http.Response)
    (hread : site.cookie.read req.headers = some id)
    (hrun : w.perform (site.service.authenticateSession id req.method (Csrf.headerToken? req.headers)).run =
      (some (.ok a), w')) :
    (drawnBy w' (route a.principal)).Sublist (drawnBy w (site.guardKeys req route)) := by
  have hentry :
      w.perform (site.service.authenticate (.session id (Csrf.headerToken? req.headers)) req.method).run =
      (some (.ok ⟨a.principal, .session, if a.refreshed then some a.session else none⟩), w') := by
    unfold Service.authenticate
    dsimp only
    rw [perform_bind, hrun]
    rfl
  unfold Site.guardKeys Site.guard
  rw [ofHeaders_sessionOnly, hread]
  dsimp only
  refine .trans ?_ (drawnBy_second hentry _)
  exact drawnBy_first w' _ _

lemma serves_guardKeys (hp : Modest site.service.policy) (hroute : ∀ owner, Serves site (route owner)) :
    Serves site (site.guardKeys req route) := by
  intro older w hw hdrawn
  have hmore : older ⊆ drawnBy w (site.guardKeys req route) ++ older := List.subset_append_right _ older
  rw [perform_guardKeys]
  cases hread : site.cookie.read req.headers with
  | none => exact served_refused hw hmore (tellable_of_plain rfl (by decide))
  | some id =>
    let csrf := Csrf.headerToken? req.headers
    have hsettles := authenticate_settles hw.filed (inRange_of_early hw.early hp) id req.method csrf
    have hready := ready_authenticate hw id req.method csrf
    dsimp only
    cases hrun : w.perform (site.service.authenticateSession id req.method csrf).run with
    | mk entered w' =>
      rw [hrun] at hsettles hready
      obtain ⟨entered, rfl, htellable⟩ := hsettles
      cases entered with
      | error e => exact served_refused hready hmore (htellable e rfl)
      | ok a =>
        have hdraws := (guardKeys_draws route hread hrun).append_right older
        have hserved := hroute a.principal older w' hready (wellDrawn_sublist hdrawn hdraws)
        refine served_subset (served_map hserved fun response => ?_) hdraws.subset
        unfold withCookie
        split <;> rfl

lemma serves_unknownMethod (hp : Modest site.service.policy) (methods : String) :
    Serves site (site.unknownMethod req methods) := by
  intro older w hw hdrawn
  have hguard : Serves site (site.guardKeys req fun _ => return Http.Response.methodNotAllowed methods) :=
    serves_guardKeys hp fun _ => serves_done (by decide : 405 ≠ 500)
  have hdraws := (drawnBy_first w (site.guardKeys req fun _ => return Http.Response.methodNotAllowed methods)
    fun r => return r.withAllow methods).append_right older
  rw [perform_unknownMethod]
  refine served_subset
    (served_map (hguard older w hw (wellDrawn_sublist hdrawn hdraws)) fun response => ?_) hdraws.subset
  unfold Http.Response.withAllow
  split <;> rfl

end

lemma serves_dispatch (hcookie : Renderable site.cookie) (hp : Modest site.service.policy)
    (req : Http.Request) (endpoint : Endpoint) : Serves site (site.dispatch req endpoint) := by
  cases endpoint with
  | login =>
    simp only [Site.dispatch]
    split
    · exact serves_login hcookie hp req
    · exact serves_done (by decide : 405 ≠ 500)
  | logout =>
    simp only [Site.dispatch]
    split
    · exact serves_logout req
    · exact serves_done (by decide : 405 ≠ 500)
  | apiKeys =>
    simp only [Site.dispatch]
    split
    · exact serves_guardKeys hp (serves_createKey req)
    split
    · exact serves_guardKeys hp serves_listKeys
    · exact serves_unknownMethod hp _
  | apiKey segment =>
    simp only [Site.dispatch]
    split
    · exact serves_guardKeys hp (serves_revokeKey segment)
    · exact serves_unknownMethod hp _

lemma serves_handle (hcookie : Renderable site.cookie) (hp : Modest site.service.policy)
    (req : Http.Request) :
    Serves site (site.handle req) := by
  cases hpath : Endpoint.ofPath? req.path with
  | none =>
    unfold Site.handle
    rw [hpath]
    exact serves_done (by decide : 404 ≠ 500)
  | some endpoint =>
    intro older w hw hdrawn
    have hdraws : (drawnBy w (site.dispatch req endpoint)).Sublist (drawnBy w (site.handle req)) := by
      unfold Site.handle
      rw [hpath]
      exact drawnBy_first w _ _
    have hserved := serves_dispatch hcookie hp req endpoint older w hw
      (wellDrawn_sublist hdrawn (hdraws.append_right older))
    rw [perform_handle hpath]
    refine served_subset (served_map hserved fun response => ?_) (hdraws.append_right older).subset
    unfold Site.finish
    split <;> rfl

/-! ### Runs -/

lemma ready_at (h : Ready site tokens w) (ht : Early t) : Ready site tokens { w with now := t } :=
  ⟨ht, h.counted, h.filed, h.made⟩

lemma step_served (hcookie : Renderable site.cookie) (hp : Modest site.service.policy)
    (h : Ready site older w) (step : SiteStep)
    (hdrawn : WellDrawn site.service.hash ((takeSiteStep site w step).1.calls.filterMap drawn? ++ older)) :
    Ready site ((takeSiteStep site w step).1.calls.filterMap drawn? ++ older) (takeSiteStep site w step).2 ∧
      ∀ req, step = .request req → ∃ r, (takeSiteStep site w step).1.response = some r ∧ r.status ≠ 500 := by
  cases step with
  | request req =>
    obtain ⟨hanswered, hready⟩ := serves_handle hcookie hp req older w h hdrawn
    exact ⟨hready, fun _ _ => hanswered⟩
  | purgeSessions =>
    exact ⟨⟨h.early, h.counted, storeFiled_purge h.filed w.now, h.made⟩, fun req hreq => by cases hreq⟩
  | purgeLimiter =>
    obtain ⟨l, hpurged⟩ : ∃ limiter, w.purgeLimiter.2 = { w with limiter } := by
      unfold World.purgeLimiter
      cases hl : w.limiter with
      | none => exact ⟨w.limiter, rfl⟩
      | some l => exact ⟨_, rfl⟩
    have hcounted := h.counted
    rw [← window_purgeLimiter] at hcounted
    refine ⟨?_, fun req hreq => by cases hreq⟩
    show Ready site older w.purgeLimiter.2
    rw [hpurged] at hcounted ⊢
    exact ⟨h.early, hcounted, h.filed, h.made⟩

lemma siteRun_served (hcookie : Renderable site.cookie) (hp : Modest site.service.policy)
    (hstart : ∀ t, Early t → Ready site [] { w with now := t }) (steps : List (Instant × SiteStep))
    (hearly : ∀ r ∈ steps.map Prod.fst, Early r)
    (hdrawn : WellDrawn site.service.hash (drawnTokens (siteRun site w steps).2)) :
    (∀ t, Early t → Ready site (drawnTokens (siteRun site w steps).2)
      { (siteRun site w steps).1 with now := t }) ∧
      ∀ event ∈ (siteRun site w steps).2, ∀ req, event.step = .request req →
        ∃ r, event.answer.response = some r ∧ r.status ≠ 500 := by
  induction steps with
  | nil => exact ⟨hstart, fun event hevent => absurd hevent List.not_mem_nil⟩
  | cons last earlier ih =>
    obtain ⟨t, step⟩ := last
    rw [siteRun_cons] at hdrawn ⊢
    -- the tokens of before are among those of the whole run, so that nothing has to be said of them apart
    have holder :=
      wellDrawn_sublist hdrawn (List.sublist_append_right _ (drawnTokens (siteRun site w earlier).2))
    obtain ⟨hready, hanswered⟩ := ih (fun r hr => hearly r (List.mem_cons_of_mem _ hr)) holder
    obtain ⟨hnext, hanswer⟩ := step_served hcookie hp (hready t (hearly t List.mem_cons_self)) step hdrawn
    refine ⟨fun _ ht => ready_at hnext ht, fun event hevent => ?_⟩
    rcases List.mem_cons.1 hevent with rfl | hevent
    · exact hanswer
    · exact hanswered event hevent

/-- A site in memory answers every request of every run, and none of its answers tells of an internal
failure: if its cookie can be written, if sessions and the windows of the limiter last for a century at
most, if the clock never shows a year beyond 9000, and if the tokens that are drawn in the run are
hexadecimal, never repeat, and are told apart by the hash. Nothing is asked of the requests, nor of the
users on file. -/
theorem requests_always_answered (site : Site) (w : World) (steps : List (Instant × SiteStep))
    (hcookie : Renderable site.cookie) (hp : Modest site.service.policy)
    (hlimiter : ∀ l, w.limiter = some l → l.window.window ≤ century)
    (hearly : ∀ r ∈ steps.map Prod.fst, Early r) :
    let run := siteRun site { w with sessions := Table.empty, keys := ApiKeyStore.empty } steps
    WellDrawn site.service.hash (drawnTokens run.2) →
      ∀ event ∈ run.2, ∀ req, event.step = .request req → ∃ r, event.answer.response = some r ∧
        r.status ≠ 500 := by
  intro run hdrawn
  refine (siteRun_served hcookie hp (fun t ht => ⟨ht, fun window hwindow => ?_, ?_, ?_⟩) steps
    hearly hdrawn).2
  · obtain ⟨l, hl, rfl⟩ := Option.map_eq_some_iff.1 hwindow
    exact hlimiter l hl
  · exact fun id e he => by cases he
  · exact madeFrom_empty site.service.hash []

/-- A site that files keys under their tokens as they are. -/
def plainSite : Site := ⟨⟨hourPolicy, id⟩, CookieConfig.ofSettings {}, false⟩

def limitedWorld : World := { openWorld with limiter := some (Limiter.start {} .epoch) }

def makeKeyRequest : Http.Request where
  method := .post
  path := "/auth/api-keys".toList
  headers := [cookieHeader "sniply_session=ses_a", ⟨"x-csrf-token", Http.valueOfText "aa"⟩]
  body := Text.utf8 "\x7b\"name\":\"n\",\"scope\":\"read\"\x7d"

def keyMakingSteps : List (Instant × SiteStep) :=
  [(atSecond 30, .request listRequest), (atSecond 20, .request makeKeyRequest),
    (atSecond 10, .request makeKeyRequest), (atSecond 0, .request (loginRequest "a@b"))]

/-- A login, two keys, and a list of them. -/
theorem requests_always_answered_keys :
    let run := siteRun plainSite { limitedWorld with sessions := Table.empty, keys := ApiKeyStore.empty }
      keyMakingSteps
    Renderable plainSite.cookie ∧ Modest hourPolicy ∧
    (∀ l, limitedWorld.limiter = some l → l.window.window ≤ century) ∧
      (∀ r ∈ keyMakingSteps.map Prod.fst, Early r) ∧ WellDrawn id (drawnTokens run.2) ∧
      run.2.map (fun event => event.answer.response.map Http.Response.status) =
        [some 200, some 201, some 201, some 200] ∧
      ∀ event ∈ run.2, ∀ req, event.step = .request req → ∃ r, event.answer.response = some r ∧
        r.status ≠ 500 := by
  intro run
  have hcookie : Renderable plainSite.cookie := ⟨by decide, by decide, fun d hd => by cases hd⟩
  have hp : Modest hourPolicy := ⟨by decide, by decide⟩
  have hlimiter : ∀ l, limitedWorld.limiter = some l → l.window.window ≤ century := by
    intro l hl
    cases hl
    decide
  have hearly : ∀ r ∈ keyMakingSteps.map Prod.fst, Early r := by decide
  have hdrawn : WellDrawn id (drawnTokens run.2) := by decide +kernel
  exact ⟨hcookie, hp, hlimiter, hearly, hdrawn, by decide +kernel,
    requests_always_answered plainSite limitedWorld keyMakingSteps hcookie hp hlimiter hearly hdrawn⟩

end Gatehouse.Proofs
