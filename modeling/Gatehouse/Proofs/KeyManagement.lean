import Gatehouse.Proofs.KeyCalls
import Gatehouse.Proofs.LiveSession
import Gatehouse.Proofs.RequestCalls
import Gatehouse.Proofs.SessionAcceptance

/-!
# Who may change keys

Of all that a request can do to a site, only two things touch the store of keys: a key is made, or a key is
revoked. Either takes a live session and the token of that session in the header that is meant for it, and
either concerns the user of that session and nobody else. Whatever else a request carries, the token of a key
of any scope included, is no substitute.
-/

namespace Gatehouse.Proofs
open SessionPolicy Service

variable {site : Site} {w w' : World} {id : String} {s : Session} {req : Http.Request} {endpoint : Endpoint}
  {st st' : ApiKeyStore}

/-- Keys are as they were, or a route has been entered in the name of a live session. -/
lemma guardKeys_cases (site : Site) (w : World) (req : Http.Request)
    (route : Principal → Procedure Http.Response) :
    (w.perform (site.guardKeys req route)).2.keys = w.keys ∨
      ∃ id s, ∃ w' : World, site.cookie.read req.headers = some id ∧
        LiveSession site.service.policy w id s ∧
        Csrf.verify req.method (Csrf.headerToken? req.headers) s.csrfToken = true ∧
        w'.now = w.now ∧ w'.keys = w.keys ∧
        (w.perform (site.guardKeys req route)).2.keys = (w'.perform (route ⟨s.userId, s.role⟩)).2.keys := by
  rw [perform_guardKeys]
  cases hid : site.cookie.read req.headers with
  | none => exact Or.inl rfl
  | some id =>
    let csrf := Csrf.headerToken? req.headers
    have hnow := now_perform w (site.service.authenticateSession id req.method csrf).run
    have hkeys := keys_perform (only_mono (fun _ => ofLogins_of_ofSessions)
      (only_authenticateSession site.service id req.method csrf)) w
    have hlive : ∀ a, (w.perform (site.service.authenticateSession id req.method csrf).run).1 =
        some (.ok a) → _ :=
      fun a => liveSession_of_authenticate
    dsimp only
    generalize w.perform (site.service.authenticateSession id req.method csrf).run =
      entry at hnow hkeys hlive ⊢
    obtain ⟨entered, w'⟩ := entry
    cases entered with
    | none => exact Or.inl hkeys
    | some entered =>
      cases entered with
      | error e => exact Or.inl hkeys
      | ok a =>
        obtain ⟨s, hs, hverify, hprincipal⟩ := hlive a rfl
        refine Or.inr ⟨id, s, w', rfl, hs, hverify, hnow, hkeys, ?_⟩
        show (w'.perform (route a.principal)).2.keys = _
        rw [hprincipal]

/-- One new key of an owner is filed, and nothing else is different. -/
def KeyAdded (owner : Principal) (st st' : ApiKeyStore) : Prop :=
  ∃ k, k.userId = owner.userId ∧ k.userRole = owner.role ∧ k.revokedAt = none ∧
    st.get? k.id = none ∧ st.byHash.get? k.tokenHash = none ∧
    (∀ id, st'.get? id = if id = k.id then some k else st.get? id) ∧
    ∀ hash, st'.byHash.get? hash = if hash = k.tokenHash then some k.id else st.byHash.get? hash

/-- One key of an owner that was good until now is revoked, and nothing else is different. -/
def KeyRevoked (owner : Principal) (id : String) (now : Instant) (st st' : ApiKeyStore) : Prop :=
  ∃ k, st.get? id = some k ∧ k.userId = owner.userId ∧ k.revokedAt = none ∧
    (∀ id', st'.get? id' = if id' = id then some { k with revokedAt := some now } else st.get? id') ∧
    ∀ hash, st'.byHash.get? hash = st.byHash.get? hash

lemma keyAdded_of_insert {k : ApiKey} {owner : Principal} (hinsert : st.insert k = .ok st')
    (howner : k.userId = owner.userId ∧ k.userRole = owner.role) (hlive : k.revokedAt = none) :
    KeyAdded owner st st' := by
  obtain ⟨hnew, hunlisted, _⟩ := ApiKeyStore.insert_eq_ok_iff.1 hinsert
  exact ⟨k, howner.1, howner.2, hlive, hnew, hunlisted, get?_of_insert hinsert, byHash_of_insert hinsert⟩

lemma createKey_cases (site : Site) (w : World) (req : Http.Request) (owner : Principal) :
    (w.perform (site.createKey req owner)).2.keys = w.keys ∨
      KeyAdded owner w.keys (w.perform (site.createKey req owner)).2.keys := by
  rw [perform_createKeyRequest]
  split
  · exact Or.inl rfl
  split
  · exact Or.inl rfl
  split
  · exact Or.inl rfl
  dsimp only
  split
  · exact Or.inl rfl
  · rename_i hinsert
    exact Or.inr (keyAdded_of_insert hinsert ⟨rfl, rfl⟩ rfl)

lemma keyRevoked_of_revoke {k : ApiKey} {owner : Principal} (hk : st.get? id = some k)
    (howner : k.userId = owner.userId) (hlive : k.isRevoked = false) (now : Instant) :
    KeyRevoked owner id now st (st.revoke id now).2 := by
  have hgood : k.revokedAt = none := isRevoked_eq_false_iff.1 hlive
  refine ⟨k, hk, howner, hgood, fun id' => ?_, fun hash => ?_⟩
  · rw [ApiKeyStore.get?_revoke, hk]
    simp only [Option.map_some, ApiKey.revoke, hgood, Option.getD_none]
  · rw [byHash_revoke]

lemma revokeKey_cases (w : World) (segment : List Char) (owner : Principal) :
    (w.perform (Site.revokeKey segment owner)).2.keys = w.keys ∨
      ∃ name, Http.segmentText? segment = some name ∧
        KeyRevoked owner (Text.trim name) w.now w.keys (w.perform (Site.revokeKey segment owner)).2.keys := by
  rw [perform_revokeKeyRequest]
  cases Http.segmentText? segment with
  | none => exact Or.inl rfl
  | some name =>
    dsimp only
    split
    · exact Or.inl rfl
    cases howned : (w.keys.get? (Text.trim name)).filter fun k => k.userId = owner.userId with
    | none => exact Or.inl rfl
    | some k =>
      obtain ⟨hk, howner⟩ := Option.filter_eq_some_iff.1 howned
      dsimp only
      cases hrevoked : k.isRevoked with
      | true => exact Or.inl rfl
      | false => exact Or.inr ⟨name, rfl, keyRevoked_of_revoke hk (of_decide_eq_true howner) hrevoked w.now⟩

lemma listKeys_keeps (w : World) (owner : Principal) : (w.perform (Site.listKeys owner)).2.keys = w.keys := by
  rw [perform_listKeysRequest]

lemma guardKeys_keeps (site : Site) (w : World) (req : Http.Request)
    (route : Principal → Procedure Http.Response)
    (hroute : ∀ (w : World) owner, (w.perform (route owner)).2.keys = w.keys) :
    (w.perform (site.guardKeys req route)).2.keys = w.keys := by
  rcases guardKeys_cases site w req route with hsame | ⟨_, s, w', _, _, _, _, hkeys, hend⟩
  · exact hsame
  · rw [hend, hroute, hkeys]

lemma unknownMethod_keeps (site : Site) (w : World) (req : Http.Request) (methods : String) :
    (w.perform (site.unknownMethod req methods)).2.keys = w.keys := by
  rw [perform_unknownMethod]
  exact guardKeys_keeps site w req _ fun _ _ => rfl

lemma dropFront?_eq_some {front cs rest : List Char} (h : dropFront? front cs = some rest) :
    cs = front ++ rest := by
  induction front generalizing cs with
  | nil => exact Option.some.inj h
  | cons f front ih =>
    cases cs with
    | nil => cases h
    | cons c cs =>
      rw [dropFront?] at h
      split at h
      · rename_i heq
        rw [heq, ih h]
        rfl
      · cases h

lemma path_of_apiKeys {path : List Char} (h : Endpoint.ofPath? path = some .apiKeys) :
    path = "/auth/api-keys".toList := by
  unfold Endpoint.ofPath? at h
  split at h
  · cases h
  split at h
  · cases h
  split at h
  · assumption
  · obtain ⟨segment, _, h⟩ := Option.bind_eq_some_iff.1 h
    split at h <;> cases h

lemma path_of_apiKey {path segment : List Char} (h : Endpoint.ofPath? path = some (.apiKey segment)) :
    path = "/auth/api-keys/".toList ++ segment ∧ segment ≠ [] ∧ '/' ∉ segment := by
  unfold Endpoint.ofPath? at h
  split at h
  · cases h
  split at h
  · cases h
  split at h
  · cases h
  · obtain ⟨rest, hrest, h⟩ := Option.bind_eq_some_iff.1 h
    split at h
    · rename_i hwhole
      cases h
      exact ⟨dropFront?_eq_some hrest, hwhole⟩
    · cases h

lemma perform_handle_snd (hpath : Endpoint.ofPath? req.path = some endpoint) (w : World) :
    (w.perform (site.handle req)).2 = (w.perform (site.dispatch req endpoint)).2 := by
  unfold Site.handle
  rw [hpath]
  exact perform_then_snd w (site.dispatch req endpoint) fun _ _ => rfl

/-- The request may act for a live session, and shows that it does not come from elsewhere. -/
structure Rightful (site : Site) (w : World) (req : Http.Request) (s : Session) : Prop where
  live : ∃ id, site.cookie.read req.headers = some id ∧ LiveSession site.service.policy w id s
  meant : Csrf.headerToken? req.headers = some s.csrfToken

lemma rightful_of_verify (hid : site.cookie.read req.headers = some id)
    (hs : LiveSession site.service.policy w id s) (hchecked : req.method.isSafe = false)
    (hverify : Csrf.verify req.method (Csrf.headerToken? req.headers) s.csrfToken = true) :
    Rightful site w req s := by
  refine ⟨⟨id, hid, hs⟩, ?_⟩
  rcases Csrf.verify_iff.1 hverify with hsafe | ⟨htoken, _⟩
  · rw [hchecked] at hsafe
    cases hsafe
  · exact htoken

/-- What may have become of the keys once a request is dealt with. -/
def KeyChange (site : Site) (w : World) (req : Http.Request) (st : ApiKeyStore) : Prop :=
  ∃ s, Rightful site w req s ∧
    (req.method = .post ∧ req.path = "/auth/api-keys".toList ∧ KeyAdded ⟨s.userId, s.role⟩ w.keys st ∨
      ∃ segment name, req.method = .delete ∧ req.path = "/auth/api-keys/".toList ++ segment ∧
        segment ≠ [] ∧ '/' ∉ segment ∧ Http.segmentText? segment = some name ∧
        KeyRevoked ⟨s.userId, s.role⟩ (Text.trim name) w.now w.keys st)

lemma dispatch_cases (hpath : Endpoint.ofPath? req.path = some endpoint) (w : World) :
    (w.perform (site.dispatch req endpoint)).2.keys = w.keys ∨
      KeyChange site w req (w.perform (site.dispatch req endpoint)).2.keys := by
  cases endpoint with
  | login =>
    left
    simp only [Site.dispatch]
    split
    · exact keys_perform (only_loginRequest site req) w
    · rfl
  | logout =>
    left
    simp only [Site.dispatch]
    split
    · exact keys_perform (only_mono (fun _ => ofLogins_of_ofSessions) (only_logoutRequest site req)) w
    · rfl
  | apiKeys =>
    simp only [Site.dispatch]
    split
    · rename_i hpost
      rcases guardKeys_cases site w req (site.createKey req) with hsame |
        ⟨id, s, w', hid, hs, hverify, _, hkeys, hend⟩
      · exact Or.inl hsame
      rw [hend]
      rcases createKey_cases site w' req ⟨s.userId, s.role⟩ with hsame | hadded
      · exact Or.inl (hsame.trans hkeys)
      · rw [hkeys] at hadded
        have hrightful := rightful_of_verify hid hs (by rw [hpost]; rfl) hverify
        exact Or.inr ⟨s, hrightful, Or.inl ⟨hpost, path_of_apiKeys hpath, hadded⟩⟩
    split
    · exact Or.inl (guardKeys_keeps site w req Site.listKeys listKeys_keeps)
    · exact Or.inl (unknownMethod_keeps site w req "POST,GET,HEAD")
  | apiKey segment =>
    simp only [Site.dispatch]
    split
    · rename_i hdelete
      rcases guardKeys_cases site w req (Site.revokeKey segment) with hsame |
        ⟨id, s, w', hid, hs, hverify, hnow, hkeys, hend⟩
      · exact Or.inl hsame
      rw [hend]
      rcases revokeKey_cases w' segment ⟨s.userId, s.role⟩ with hsame | ⟨name, hname, hrevoked⟩
      · exact Or.inl (hsame.trans hkeys)
      · rw [hkeys, hnow] at hrevoked
        have hrightful := rightful_of_verify hid hs (by rw [hdelete]; rfl) hverify
        obtain ⟨hplace, hnonempty, hwhole⟩ := path_of_apiKey hpath
        exact Or.inr ⟨s, hrightful,
          Or.inr ⟨segment, name, hdelete, hplace, hnonempty, hwhole, hname, hrevoked⟩⟩
    · exact Or.inl (unknownMethod_keeps site w req "DELETE")

/-- Whatever the state of the world and whatever the request, keys are different afterwards only if the
request came with the cookie of a live session and with the token of that session in its header, and then it
either made one key for the user of the session or revoked one key of that user. -/
theorem keys_changed_by_rightful (site : Site) (w : World) (req : Http.Request)
    (hchanged : (w.perform (site.handle req)).2.keys ≠ w.keys) :
    KeyChange site w req (w.perform (site.handle req)).2.keys := by
  cases hpath : Endpoint.ofPath? req.path with
  | none =>
    refine absurd ?_ hchanged
    unfold Site.handle
    rw [hpath]
    rfl
  | some endpoint =>
    rw [perform_handle_snd hpath] at hchanged ⊢
    exact (dispatch_cases hpath w).resolve_left hchanged

def hourSite : Site := ⟨hourService, CookieConfig.ofSettings {}, false⟩

def doorKey : ApiKey := ⟨"key_d", "u", "r", "door", .readWrite, "d", "sk_d", .epoch, none⟩

/-- A user with one session and one key. -/
def furnishedWorld : World where
  now := atSecond 10
  tokens := countedTokens
  sessions :=
    Table.empty.insert "ses_a" ⟨⟨"ses_a", "u", "r", "c", .epoch, .epoch, atSecond 3600⟩, atSecond 3600⟩
  keys := ⟨Table.empty.insert "key_d" doorKey, Table.empty.insert "d" "key_d"⟩

def revokeRequest : Http.Request where
  method := .delete
  path := "/auth/api-keys/key_d".toList
  headers := [⟨"cookie", Http.valueOfText "sniply_session=ses_a"⟩, ⟨"x-csrf-token", Http.valueOfText " c "⟩]

/-- A key is revoked by its owner. -/
theorem keys_changed_by_rightful_owner :
    (furnishedWorld.perform (hourSite.handle revokeRequest)).2.keys ≠ furnishedWorld.keys ∧
      KeyChange hourSite furnishedWorld revokeRequest
        (furnishedWorld.perform (hourSite.handle revokeRequest)).2.keys := by
  have hchanged : (furnishedWorld.perform (hourSite.handle revokeRequest)).2.keys ≠ furnishedWorld.keys := by
    decide +kernel
  exact ⟨hchanged, keys_changed_by_rightful hourSite furnishedWorld revokeRequest hchanged⟩

end Gatehouse.Proofs
