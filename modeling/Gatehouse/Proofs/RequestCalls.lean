import Gatehouse.Proofs.CallKinds
import Gatehouse.Proofs.KeyCalls
import Gatehouse.Proofs.ServiceCalls

/-!
# What requests do to a world

A request to log in comes down to a login, which is two things one after the other: the attempt is admitted,
and then the credentials are looked at. A request for the keys comes down to an authentication, to the route
behind the guard, and to a cookie that may follow.
-/

namespace Gatehouse.Proofs
open Service Attempt

variable {w : World}

/-- What a login goes through before anything is looked up: the checks of its form, and the limiter. -/
def admission (email password : String) (ip : Option String) : Attempt AuthError Unit := do
  if email = "" ∨ password = "" then throw (.invalidInput "email and password are required")
  if !email.toList.contains '@' then throw (.invalidInput "invalid email")
  match addressKey? ip with
  | some key => charge key
  | none => pure ()
  charge (emailKey email)

/-- Whether or not it is admitted, only the counters of the limiter are different afterwards. -/
lemma admission_world (w : World) (email password : String) (ip : Option String) :
    ∃ result limiter, w.perform (admission email password ip).run = (result, { w with limiter }) := by
  unfold admission
  dsimp only
  split
  · exact ⟨_, w.limiter, rfl⟩
  split
  · exact ⟨_, w.limiter, rfl⟩
  cases addressKey? ip with
  | none => exact charge_world w (emailKey email)
  | some key =>
    obtain ⟨result, limiter, hcharge⟩ := charge_world w key
    rw [perform_bind, hcharge]
    cases result with
    | none => exact ⟨none, limiter, rfl⟩
    | some result =>
      cases result with
      | error e => exact ⟨some (.error e), limiter, rfl⟩
      | ok _ => exact charge_world { w with limiter } (emailKey email)

/-- What a login goes through once it is admitted: the look-up, the password, and a new session. -/
def examination (sv : Service) (email password : String) : Attempt AuthError LoginOutcome := do
  let found ← orTell (fun _ => .internal "failed to authenticate") (← ask (.findUser email))
  match found with
  | none => throw wrongCredentials
  | some user =>
    let agrees ← orTell (fun _ => .internal "failed to authenticate")
      (← ask (.verifyPassword password user.passwordHash))
    if !agrees then throw wrongCredentials
    let session ← retell (fun _ => .internal "failed to create session")
      (sv.policy.create user.id user.role)
    return ⟨⟨user.id, user.role⟩, session⟩

lemma throw_bind_attempt {ε α β : Type} (e : ε) (f : α → Attempt ε β) :
    (throw e : Attempt ε α) >>= f = throw e := rfl

lemma login_eq (sv : Service) (email password : String) (ip : Option String) :
    sv.login email password ip =
      admission (normalEmail email) (Text.trim password) ip >>= fun _ =>
        examination sv (normalEmail email) (Text.trim password) := by
  unfold Service.login admission
  dsimp only
  by_cases hempty : normalEmail email = "" ∨ Text.trim password = ""
  · simp only [if_pos hempty, throw_bind_attempt]
  simp only [if_neg hempty]
  by_cases hat : (!(normalEmail email).toList.contains '@') = true
  · simp only [if_pos hat, throw_bind_attempt]
  simp only [if_neg hat]
  cases addressKey? ip with
  | none => rfl
  | some key =>
    simp only [bind_assoc]
    rfl

/-- What becomes of a login that has been admitted. -/
def examined (sv : Service) (email password : String) (w : World) :
    Option (Except AuthError LoginOutcome) × World :=
  match (w.users.findByEmail? email).filter fun user => w.verify password user.passwordHash with
  | none => (some (.error wrongCredentials), w)
  | some user =>
    let created := w.perform (sv.policy.create user.id user.role).run
    (created.1.map fun r => (r.mapError fun _ => .internal "failed to create session").map fun s =>
      ⟨⟨user.id, user.role⟩, s⟩, created.2)

lemma perform_examination (sv : Service) (w : World) (email password : String) :
    w.perform (examination sv email password).run = examined sv email password w := by
  unfold examination examined
  simp only [perform_bind, perform_ask, World.answer, Option.map_some, perform_orTell, mapError_ok]
  cases w.users.findByEmail? email with
  | none => rfl
  | some user =>
    simp only [perform_bind, perform_ask, World.answer, Option.map_some, perform_orTell, mapError_ok,
      Option.filter_some]
    cases w.verify password user.passwordHash with
    | false => rfl
    | true =>
      simp only [Bool.not_true, Bool.false_eq_true, if_false, if_true, perform_bind, perform_retell]
      cases w.perform (sv.policy.create user.id user.role).run with
      | mk created w' =>
        cases created with
        | none => rfl
        | some created => cases created <;> rfl

lemma perform_login (sv : Service) (w : World) (email password : String) (ip : Option String) :
    w.perform (sv.login email password ip).run =
      match w.perform (admission (normalEmail email) (Text.trim password) ip).run with
      | (some (.ok _), w') => examined sv (normalEmail email) (Text.trim password) w'
      | (some (.error e), w') => (some (.error e), w')
      | (none, w') => (none, w') := by
  rw [login_eq, perform_bind]
  cases w.perform (admission (normalEmail email) (Text.trim password) ip).run with
  | mk admitted w' =>
    cases admitted with
    | none => rfl
    | some admitted =>
      cases admitted with
      | error e => rfl
      | ok _ => exact perform_examination sv w' _ _

lemma perform_respond (w : World) (p : Attempt AuthError Http.Response) :
    w.perform (respond p) =
      match w.perform p.run with
      | (some (.ok r), w') => (some r, w')
      | (some (.error e), w') => (e.response?, w')
      | (none, w') => (none, w') := by
  unfold respond
  rw [perform_then]
  generalize w.perform p.run = ending
  obtain ⟨r, w'⟩ := ending
  cases r with
  | none => rfl
  | some r =>
    cases r with
    | ok r => rfl
    | error e => exact Procedure.run_orBreakdown _ _ _

/-- The response that hands a session out. -/
def loginResponse (s : Session) (cookie : String) : Http.Response :=
  (Http.Response.json 200 (LoginResponse.toJson ⟨s.expiresAt, s.csrfToken⟩)).addHeader "set-cookie" cookie

/-- The response to a login, and the world that it leaves. -/
def loginAnswered (site : Site) (r : Option (Except AuthError LoginOutcome) × World) :
    Option Http.Response × World :=
  match r with
  | (none, w) => (none, w)
  | (some (.error e), w) => (e.response?, w)
  | (some (.ok o), w) =>
    match site.cookie.write o.session.id o.session.expiresAt w.now with
    | none => ((AuthError.internal "failed to set session cookie").response?, w)
    | some cookie => (some (loginResponse o.session cookie), w)

lemma loginAnswered_of_write {site : Site} {o : LoginOutcome} {cookie : String}
    (h : site.cookie.write o.session.id o.session.expiresAt w.now = some cookie) :
    loginAnswered site (some (.ok o), w) = (some (loginResponse o.session cookie), w) := by
  unfold loginAnswered
  dsimp only
  rw [h]

lemma perform_loginRequest (site : Site) (w : World) (req : Http.Request) :
    w.perform (site.login req) =
      if maxLoginBytes < req.body.length then ((AuthError.invalidInput "invalid request body").response?, w)
      else match (Json.ofBytes? req.body).bind LoginRequest.ofJson? with
        | none => ((AuthError.invalidInput "invalid json").response?, w)
        | some payload => loginAnswered site
          (w.perform (site.service.login payload.email payload.password
              (clientAddress? site.trustProxy req)).run) := by
  unfold Site.login
  rw [perform_respond]
  by_cases hlong : maxLoginBytes < req.body.length
  · simp only [if_pos hlong, throw_bind_attempt]
    rfl
  simp only [if_neg hlong]
  unfold readMessage
  cases (Json.ofBytes? req.body).bind LoginRequest.ofJson? with
  | none => rfl
  | some payload =>
    simp only [pure_bind, perform_bind]
    generalize w.perform (site.service.login payload.email payload.password
      (clientAddress? site.trustProxy req)).run = ending
    obtain ⟨r, w'⟩ := ending
    cases r with
    | none => rfl
    | some r =>
      cases r with
      | error e => rfl
      | ok o =>
        simp only [perform_ask, World.answer, Option.map_some, loginAnswered]
        cases site.cookie.write o.session.id o.session.expiresAt w'.now <;> rfl

/-- The response that takes a session back. -/
def farewell (site : Site) : Http.Response :=
  match site.cookie.clear with
  | some cookie => Http.Response.addHeader { status := 204 } "set-cookie" cookie
  | none => { status := 204 }

lemma perform_logoutRequest (site : Site) (w : World) (req : Http.Request) :
    w.perform (site.logout req) =
      (some (farewell site),
        match site.cookie.read req.headers with
        | none => w
        | some id => if Text.trim id = "" then w else dropSession w (Text.trim id)) := by
  unfold Site.logout farewell
  cases site.cookie.read req.headers with
  | none => cases site.cookie.clear <;> rfl
  | some id =>
    dsimp only
    rw [perform_then, perform_logout]
    cases site.cookie.clear <;> rfl

lemma perform_createKeyRequest (site : Site) (w : World) (req : Http.Request) (owner : Principal) :
    w.perform (site.createKey req owner) =
      if maxBodyBytes < req.body.length then
        (some (Http.Response.plain 413 "Failed to buffer the request body: length limit exceeded"), w)
      else match (Json.ofBytes? req.body).bind CreateKeyRequest.ofJson? with
        | none => ((AuthError.invalidInput "invalid json").response?, w)
        | some payload =>
          match Scope.ofText payload.scope with
          | .error e => (e.response?, w)
          | .ok scope =>
            let k := nextKey site.service.hash w owner payload.name scope
            match w.keys.insert k with
            | .error _ => ((AuthError.internal "failed to create api key").response?, drawKey w)
            | .ok keys =>
              (some (Http.Response.json 201 (CreateKeyResponse.ofCreated ⟨k, nextToken w⟩).toJson),
                { drawKey w with keys }) := by
  unfold Site.createKey
  by_cases hlong : maxBodyBytes < req.body.length
  · rw [if_pos hlong, if_pos hlong]
    rfl
  rw [if_neg hlong, if_neg hlong, perform_respond]
  unfold readMessage
  cases (Json.ofBytes? req.body).bind CreateKeyRequest.ofJson? with
  | none => rfl
  | some payload =>
    simp only [pure_bind]
    rw [perform_bind, perform_createKey]
    cases Scope.ofText payload.scope with
    | error e => rfl
    | ok scope =>
      dsimp only
      cases w.keys.insert (nextKey site.service.hash w owner payload.name scope) <;> rfl

lemma perform_listKeysRequest (w : World) (owner : Principal) :
    w.perform (Site.listKeys owner) =
      (some (Http.Response.json 200
        (.arr ((w.keys.listByUser owner.userId).map fun k => (KeyResponse.ofKey k).toJson))), w) := by
  unfold Site.listKeys
  rw [perform_respond, perform_bind, perform_listKeys]
  rfl

lemma perform_revokeKeyRequest (w : World) (segment : List Char) (owner : Principal) :
    w.perform (Site.revokeKey segment owner) =
      match Http.segmentText? segment with
      | none => (some (Http.Response.plain 400 "Invalid URL: Invalid UTF-8 in \x60id\x60"), w)
      | some name =>
        if Text.trim name = "" then ((AuthError.invalidInput "invalid id").response?, w)
        else match (w.keys.get? (Text.trim name)).filter fun k => k.userId = owner.userId with
          | none => ((AuthError.notFound "api key not found").response?, w)
          | some k =>
            (some { status := 204 },
              if k.isRevoked then w else { w with keys := (w.keys.revoke (Text.trim name) w.now).2 }) := by
  unfold Site.revokeKey
  cases Http.segmentText? segment with
  | none => rfl
  | some name =>
    dsimp only
    rw [perform_respond, perform_bind, perform_revokeById]
    by_cases hempty : Text.trim name = ""
    · rw [if_pos hempty, if_pos hempty]
    rw [if_neg hempty, if_neg hempty]
    cases (w.keys.get? (Text.trim name)).filter fun k => k.userId = owner.userId with
    | none => rfl
    | some k =>
      dsimp only
      cases k.isRevoked <;> rfl

/-! ### Requests behind the guard -/

/-- The response with the cookie of a session that has been refreshed. -/
def withCookie (site : Site) (now : Instant) (refreshed : Option Session) (r : Http.Response) :
    Http.Response :=
  match refreshed.bind fun s => site.cookie.write s.id s.expiresAt now with
  | none => r
  | some cookie => r.addHeader "set-cookie" cookie

lemma perform_follow (site : Site) (w : World) (refreshed : Option Session) (r : Http.Response) :
    w.perform (site.follow refreshed r) = (some (withCookie site w.now refreshed r), w) := by
  unfold Site.follow withCookie
  cases refreshed with
  | none => rfl
  | some s =>
    have hask : w.perform (Procedure.ask .now) = (some w.now, w) := rfl
    dsimp only
    rw [perform_then, hask]
    dsimp only [Option.bind_some]
    cases site.cookie.write s.id s.expiresAt w.now <;> rfl

/-- What comes of a request for the keys once it has been authenticated. -/
def guardPassed (site : Site) (route : Principal → Procedure Http.Response)
    (r : Option (Except AuthError SessionAuth) × World) : Option Http.Response × World :=
  match r with
  | (none, w) => (none, w)
  | (some (.error e), w) => (e.response?, w)
  | (some (.ok a), w) =>
    let passed := w.perform (route a.principal)
    (passed.1.map (withCookie site w.now (if a.refreshed then some a.session else none)), passed.2)

lemma perform_guard (site : Site) (options : AuthOptions) (w : World) (req : Http.Request)
    (route : Authentication → Procedure Http.Response) :
    w.perform (site.guard options req route) =
      match w.perform (site.service.authenticate
        (Credential.ofHeaders req.headers site.cookie options) req.method).run with
      | (none, w') => (none, w')
      | (some (.error e), w') => (e.response?, w')
      | (some (.ok auth), w') =>
        let passed := w'.perform (route auth)
        (passed.1.map (withCookie site w'.now auth.refreshedSession), passed.2) := by
  unfold Site.guard
  rw [perform_then]
  generalize w.perform (Service.authenticate _ _ _).run = entry
  obtain ⟨entered, w'⟩ := entry
  cases entered with
  | none => rfl
  | some entered =>
    cases entered with
    | error e => exact Procedure.run_orBreakdown _ _ _
    | ok auth =>
      -- the clock stands still while the route is taken
      have hnow := now_perform w' (route auth)
      dsimp only
      rw [perform_then]
      generalize w'.perform (route auth) = passage at hnow ⊢
      obtain ⟨r, w''⟩ := passage
      cases r with
      | none => rfl
      | some r =>
        simp only [perform_follow]
        rw [hnow]
        rfl

lemma perform_guardKeys (site : Site) (w : World) (req : Http.Request)
    (route : Principal → Procedure Http.Response) :
    w.perform (site.guardKeys req route) =
      match site.cookie.read req.headers with
      | none => (AuthError.notAuthenticated.response?, w)
      | some id => guardPassed site route
        (w.perform (site.service.authenticateSession id req.method (Csrf.headerToken? req.headers)).run) := by
  unfold Site.guardKeys
  rw [perform_guard, ofHeaders_sessionOnly]
  cases site.cookie.read req.headers with
  | none => rfl
  | some id =>
    simp only [Service.authenticate]
    rw [perform_bind]
    generalize w.perform
      (site.service.authenticateSession id req.method (Csrf.headerToken? req.headers)).run = entry
    obtain ⟨entered, w'⟩ := entry
    cases entered with
    | none => rfl
    | some entered => cases entered <;> rfl

lemma perform_unknownMethod (site : Site) (w : World) (req : Http.Request) (methods : String) :
    w.perform (site.unknownMethod req methods) =
      let passed := w.perform (site.guardKeys req fun _ => return Http.Response.methodNotAllowed methods)
      (passed.1.map (·.withAllow methods), passed.2) := by
  unfold Site.unknownMethod
  rw [perform_then]
  generalize w.perform (site.guardKeys req _) = passed
  obtain ⟨r, w'⟩ := passed
  cases r <;> rfl

lemma text_answer (c : Call) (w : World) : (World.answer c w).2.tokens.text = w.tokens.text := by
  cases c with
  | generate bytes => rfl
  | saveSession s ttl =>
    simp only [World.answer, World.saveSession]
    split <;> rfl
  | attempt key =>
    simp only [World.answer, World.attempt]
    split <;> rfl
  | insertKey k =>
    simp only [World.answer, World.insertKey]
    split <;> rfl
  | _ => rfl

lemma text_perform {α : Type} (w : World) (p : Procedure α) : (w.perform p).2.tokens.text = w.tokens.text :=
  only_keeps (f := fun w => w.tokens.text) (fun c w _ => text_answer c w) (only_any p) w

lemma text_purgeLimiter (w : World) : w.purgeLimiter.2.tokens.text = w.tokens.text := by
  unfold World.purgeLimiter
  cases w.limiter <;> rfl

lemma status_finish (headOnly : Bool) (r : Http.Response) : (Site.finish headOnly r).status = r.status := by
  unfold Site.finish
  split <;> rfl

lemma perform_handle {site : Site} {req : Http.Request} {endpoint : Endpoint}
    (hpath : Endpoint.ofPath? req.path = some endpoint) (w : World) :
    w.perform (site.handle req) =
      ((w.perform (site.dispatch req endpoint)).1.map
        (Site.finish (endpoint = .apiKeys ∧ req.method = .head)),
        (w.perform (site.dispatch req endpoint)).2) := by
  unfold Site.handle
  rw [hpath]
  dsimp only
  rw [perform_then]
  generalize w.perform (site.dispatch req endpoint) = ending
  obtain ⟨r, w'⟩ := ending
  cases r <;> rfl

lemma perform_loginHandle {site : Site} {req : Http.Request} (hpost : req.method = .post)
    (hpath : req.path = "/auth/login".toList) (w : World) :
    w.perform (site.handle req) =
      ((w.perform (site.login req)).1.map (Site.finish false), (w.perform (site.login req)).2) := by
  have hendpoint : Endpoint.ofPath? req.path = some .login := by
    rw [hpath]
    rfl
  have hdispatch : site.dispatch req .login = site.login req := if_pos hpost
  rw [perform_handle hendpoint, hdispatch]
  rfl

end Gatehouse.Proofs
