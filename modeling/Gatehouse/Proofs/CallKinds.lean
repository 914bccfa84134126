import Gatehouse.Proofs.CallTrace
import Gatehouse.Web.Routes

/-!
# Who makes which calls

What serves sessions has nothing to do with keys, and what manages keys looks no user up. Only a login does
that, and not even a login touches a key.
-/

namespace Gatehouse.Proofs
open SessionPolicy Service

variable {P : Call → Prop}

/-- The calls of what serves sessions. -/
def OfSessions : Call → Prop
  | .now => True
  | .generate _ => True
  | .saveSession _ _ => True
  | .loadSession _ => True
  | .deleteSession _ => True
  | _ => False

/-- The calls of a login. -/
def OfLogins : Call → Prop
  | .attempt _ => True
  | .findUser _ => True
  | .verifyPassword _ _ => True
  | c => OfSessions c

/-- The calls of what manages keys. -/
def OfKeys : Call → Prop
  | .now => True
  | .generate _ => True
  | .insertKey _ => True
  | .listKeys _ => True
  | .getKey _ => True
  | .findKey _ => True
  | .revokeKey _ _ => True
  | _ => False

lemma ofLogins_of_ofSessions {c : Call} (h : OfSessions c) : OfLogins c := by
  cases c with
  | attempt key => trivial
  | findUser email => trivial
  | verifyPassword password hash => trivial
  | _ => exact h

lemma keys_unless {c : Call} (hinsert : ∀ k, c ≠ .insertKey k)
    (hrevoke : ∀ id moment, c ≠ .revokeKey id moment) (w : World) : (World.answer c w).2.keys = w.keys := by
  have hleaves := answer_leaves c w
  generalize (World.answer c w).2 = w' at hleaves ⊢
  cases hleaves with
  | inserted k keys => exact absurd rfl (hinsert k)
  | revoked id moment keys => exact absurd rfl (hrevoke id moment)
  | _ => rfl

lemma keys_answer {c : Call} (h : OfLogins c) (w : World) : (World.answer c w).2.keys = w.keys :=
  keys_unless (fun _ hc => (hc ▸ h).elim) (fun _ _ hc => (hc ▸ h).elim) w

lemma keys_perform {p : Procedure α} (h : Only OfLogins p) (w : World) : (w.perform p).2.keys = w.keys :=
  only_keeps (fun _ w hc => keys_answer hc w) h w

lemma sessions_answer {c : Call} (h : OfKeys c) (w : World) : (World.answer c w).2.sessions = w.sessions := by
  have hleaves := answer_leaves c w
  generalize (World.answer c w).2 = w' at hleaves ⊢
  cases hleaves with
  | saved s ttl sessions => exact h.elim
  | loaded id sessions => exact h.elim
  | deleted id sessions => exact h.elim
  | _ => rfl

lemma sessions_perform {p : Procedure α} (h : Only OfKeys p) (w : World) :
    (w.perform p).2.sessions = w.sessions :=
  only_keeps (fun _ w hc => sessions_answer hc w) h w

lemma only_persist (s : Session) (now : Instant) : Only OfSessions (persist s now).run :=
  only_bind (only_ask trivial) fun r => only_orTell _ r

lemma only_discard (id : String) : Only OfSessions (discard id).run :=
  only_bind (only_ask trivial) fun _ => .done _

lemma only_createSession (p : SessionPolicy) (userId role : String) :
    Only OfSessions (p.create userId role).run := by
  unfold SessionPolicy.create
  refine only_bind (only_ask trivial) fun now => only_bind (only_ask trivial) fun id =>
    only_bind (only_ask trivial) fun csrfToken => only_bind (only_orBreakdown _) fun expiresAt => ?_
  exact only_bind (only_persist _ now) fun _ => .done _

lemma only_get (p : SessionPolicy) (id : String) : Only OfSessions (p.get id).run := by
  unfold SessionPolicy.get
  split
  · exact .done _
  refine only_bind (only_ask trivial) fun r => only_bind (only_orTell _ r) fun found => ?_
  cases found with
  | none => exact .done _
  | some s =>
    refine only_bind (only_ask trivial) fun now => only_bind (only_orBreakdown _) fun past => ?_
    split
    · exact only_bind (only_discard s.id) fun _ => .done _
    · exact .done _

lemma only_refresh (p : SessionPolicy) (s : Session) : Only OfSessions (p.refresh s).run := by
  unfold SessionPolicy.refresh
  refine only_bind (only_ask trivial) fun now => only_bind (only_orBreakdown _) fun past => ?_
  split
  · exact only_bind (only_discard s.id) fun _ => .done _
  refine only_bind (only_orBreakdown _) fun due => ?_
  cases due with
  | none => exact .done _
  | some s' => exact only_bind (only_persist s' now) fun _ => .done _

lemma only_authenticateSession (sv : Service) (id : String) (m : Http.Method) (csrf : Option String) :
    Only OfSessions (sv.authenticateSession id m csrf).run := by
  unfold authenticateSession
  refine only_bind (only_retell _ (only_get sv.policy id)) fun s => ?_
  split
  · exact .done _
  · exact only_bind (only_retell _ (only_refresh sv.policy s)) fun _ => .done _

lemma only_logout (id : String) : Only OfSessions (Service.logout id).run := by
  unfold Service.logout
  dsimp only
  split
  · exact .done _
  · exact only_retell _ (only_bind (only_ask trivial) fun r => only_orTell _ r)

lemma only_charge {key : String} (h : P (.attempt key)) : Only P (charge key).run := by
  unfold charge
  refine only_bind (only_ask h) fun r => only_bind (only_orTell _ r) fun decision => ?_
  split <;> exact .done _

lemma only_address (ip : Option String) (f : Unit → Attempt AuthError LoginOutcome)
    (hf : Only OfLogins (f ()).run) :
    Only OfLogins (match addressKey? ip with
      | some key => charge key >>= f
      | none => f ()).run := by
  cases addressKey? ip with
  | none => exact hf
  | some key => exact only_bind (only_charge trivial) fun _ => hf

lemma only_login (sv : Service) (email password : String) (ip : Option String) :
    Only OfLogins (sv.login email password ip).run := by
  unfold Service.login
  dsimp only
  split
  · exact .done _
  split
  · exact .done _
  refine only_address ip _ (only_bind (only_charge trivial) fun _ => ?_)
  refine only_bind (only_ask trivial) fun r => only_bind (only_orTell _ r) fun found => ?_
  cases found with
  | none => exact .done _
  | some user =>
    refine only_bind (only_ask trivial) fun r => only_bind (only_orTell _ r) fun agrees => ?_
    split
    · exact .done _
    · refine only_bind (only_retell _ ?_) fun _ => .done _
      exact only_mono (fun _ => ofLogins_of_ofSessions) (only_createSession sv.policy user.id user.role)

/-- A key is filed as it is made, and it is not revoked then. -/
lemma only_newKey (hnow : P .now) (hgenerate : ∀ bytes, P (.generate bytes))
    (hinsert : ∀ k : ApiKey, k.revokedAt = none → P (.insertKey k)) (hash : String → String)
    (owner : Principal) (name scope : String) : Only P (ApiKey.create hash owner name scope).run := by
  unfold ApiKey.create
  refine only_bind ?_ fun scope => only_bind (only_ask (hgenerate 32)) fun token =>
    only_bind (only_ask (hgenerate 12)) fun id => only_bind (only_ask hnow) fun createdAt => ?_
  · cases Scope.ofText scope <;> exact .done _
  · exact only_bind (only_ask (hinsert _ rfl)) fun r => only_bind (only_orTell _ r) fun _ => .done _

lemma only_createKey (hash : String → String) (owner : Principal) (name scope : String) :
    Only OfKeys (ApiKey.create hash owner name scope).run :=
  only_newKey trivial (fun _ => trivial) (fun _ _ => trivial) hash owner name scope

lemma only_listKeys (owner : Principal) : Only OfKeys (ApiKey.list owner).run :=
  only_bind (only_ask trivial) fun r => only_orTell _ r

lemma only_revokeById (owner : Principal) (id : String) : Only OfKeys (ApiKey.revokeById owner id).run := by
  unfold ApiKey.revokeById
  dsimp only
  split
  · exact .done _
  refine only_bind (only_ask trivial) fun r => only_bind (only_orTell _ r) fun found => ?_
  split
  · exact .done _
  split
  · exact .done _
  refine only_bind (only_ask trivial) fun moment => only_bind (only_ask trivial) fun r =>
    only_bind (only_orTell _ r) fun found => ?_
  split <;> exact .done _

lemma only_authenticateKey (hash : String → String) (token : String) (m : Http.Method) :
    Only OfKeys (ApiKey.authenticate hash token m).run := by
  unfold ApiKey.authenticate
  dsimp only
  split
  · exact .done _
  refine only_bind (only_ask trivial) fun r => only_bind (only_orTell _ r) fun found => ?_
  split
  · exact .done _
  split <;> exact .done _

lemma only_refusal (e : AuthError) : Only P (Procedure.orBreakdown e.response?) := by
  cases e.response? with
  | none => exact .breakdown
  | some r => exact .done r

lemma only_respond {p : Attempt AuthError Http.Response} (h : Only P p.run) : Only P (respond p) := by
  refine only_then h fun r => ?_
  cases r with
  | ok r => exact .done r
  | error e => exact only_refusal e

lemma only_readMessage {α : Type} (read : Json → Option α) (body : List UInt8) :
    Only P (readMessage read body).run := by
  unfold readMessage
  split <;> exact .done _

lemma only_loginRequest (site : Site) (req : Http.Request) : Only OfLogins (site.login req) := by
  refine only_respond ?_
  split
  · exact .done _
  refine only_bind (only_readMessage _ _) fun payload => only_bind (only_login _ _ _ _) fun outcome =>
    only_bind (only_ask trivial) fun now => ?_
  split <;> exact .done _

lemma only_logoutRequest (site : Site) (req : Http.Request) : Only OfSessions (site.logout req) := by
  unfold Site.logout
  cases site.cookie.read req.headers with
  | none => cases site.cookie.clear <;> exact .done _
  | some id =>
    refine only_then (only_logout id) fun _ => ?_
    cases site.cookie.clear <;> exact .done _

lemma only_follow (site : Site) (refreshed : Option Session) (r : Http.Response) :
    Only OfSessions (site.follow refreshed r) := by
  unfold Site.follow
  cases refreshed with
  | none => exact .done _
  | some s =>
    refine only_then (.call trivial fun _ => .done _) fun now => ?_
    cases site.cookie.write s.id s.expiresAt now with
    | none => exact .done _
    | some cookie => exact .done _

lemma ofHeaders_sessionOnly (hs : Http.Headers) (cookie : CookieConfig) :
    Credential.ofHeaders hs cookie .sessionOnly =
      match cookie.read hs with
      | some id => .session id (Csrf.headerToken? hs)
      | none => .missing := rfl

lemma only_guardKeys (hP : ∀ c, OfSessions c → P c) (site : Site) (req : Http.Request)
    {route : Principal → Procedure Http.Response} (hroute : ∀ owner, Only P (route owner)) :
    Only P (site.guardKeys req route) := by
  unfold Site.guardKeys Site.guard
  refine only_then (only_mono hP ?_) fun entry => ?_
  · rw [ofHeaders_sessionOnly]
    cases site.cookie.read req.headers with
    | none => exact .done _
    | some id => exact only_bind (only_authenticateSession site.service id req.method _) fun _ => .done _
  · cases entry with
    | error e => exact only_refusal e
    | ok auth => exact only_then (hroute auth.principal) fun r => only_mono hP (only_follow site _ r)

lemma only_createKeyRequest (site : Site) (req : Http.Request) (owner : Principal) :
    Only OfKeys (site.createKey req owner) := by
  unfold Site.createKey
  split
  · exact .done _
  · exact only_respond (only_bind (only_readMessage _ _) fun payload =>
      only_bind (only_createKey _ _ _ _) fun _ => .done _)

lemma only_listKeysRequest (owner : Principal) : Only OfKeys (Site.listKeys owner) :=
  only_respond (only_bind (only_listKeys owner) fun _ => .done _)

lemma only_revokeKeyRequest (segment : List Char) (owner : Principal) :
    Only OfKeys (Site.revokeKey segment owner) := by
  unfold Site.revokeKey
  split
  · exact .done _
  · exact only_respond (only_bind (only_revokeById owner _) fun _ => .done _)

lemma only_dispatch (hsessions : ∀ c, OfSessions c → P c) (hkeys : ∀ c, OfKeys c → P c) (site : Site)
    (req : Http.Request) {endpoint : Endpoint} (hlogin : endpoint ≠ .login) :
    Only P (site.dispatch req endpoint) := by
  have hunknown : ∀ methods, Only P (site.unknownMethod req methods) := fun methods =>
    only_then (only_guardKeys hsessions site req fun _ => .done _) fun _ => .done _
  cases endpoint with
  | login => exact absurd rfl hlogin
  | logout =>
    simp only [Site.dispatch]
    split
    · exact only_mono hsessions (only_logoutRequest site req)
    · exact .done _
  | apiKeys =>
    simp only [Site.dispatch]
    split
    · exact only_guardKeys hsessions site req fun owner =>
        only_mono hkeys (only_createKeyRequest site req owner)
    split
    · exact only_guardKeys hsessions site req fun owner => only_mono hkeys (only_listKeysRequest owner)
    · exact hunknown _
  | apiKey segment =>
    simp only [Site.dispatch]
    split
    · exact only_guardKeys hsessions site req fun owner =>
        only_mono hkeys (only_revokeKeyRequest segment owner)
    · exact hunknown _

end Gatehouse.Proofs
