import Gatehouse.Proofs.CallKinds
import Gatehouse.Proofs.KeyHistory
import Gatehouse.Proofs.KeyManagement

/-!
# One credential decides

A request is judged by one credential. With the token of an API key where keys count, the cookie, the token
against forgery and all sessions are beside the point; where keys do not count, the headers that carry them
and all keys are. And nobody acts for a session, with a method that may change something, without the token
that the session came with.
-/

namespace Gatehouse.Proofs
open Service Http

variable {w : World} {hs hs' : Headers} {cookie : CookieConfig} {options : AuthOptions} {sv : Service}
  {m : Http.Method} {α : Type}

/-- The headers of other names than these. -/
def outside (names : List String) (hs : Headers) : Headers := hs.filter fun h => h.name ∉ names

lemma values_outside {names : List String} {name : String} (h : name ∉ names) (hs : Headers) :
    (outside names hs).values name = hs.values name := by
  unfold Headers.values outside
  rw [List.filter_filter]
  refine congrArg _ (List.filter_congr fun x _ => ?_)
  by_cases hname : x.name = name
  · rw [hname]
    simp [h]
  · simp [hname]

lemma values_eq {names : List String} {name : String} (h : name ∉ names)
    (hsame : outside names hs' = outside names hs) : hs'.values name = hs.values name := by
  rw [← values_outside h hs', hsame, values_outside h hs]

/-- The headers that go with a session. -/
def sessionHeaders : List String := ["cookie", Csrf.headerName]

/-- The headers that carry the token of an API key. -/
def keyHeaders : List String := ["x-api-key", "authorization"]

lemma apiKeyToken?_eq (hsame : outside sessionHeaders hs' = outside sessionHeaders hs) :
    Credential.apiKeyToken? hs' = Credential.apiKeyToken? hs := by
  unfold Credential.apiKeyToken? Credential.dedicatedToken? Credential.bearerToken? Headers.firstText?
  rw [values_eq (by decide) hsame, values_eq (by decide) hsame]

lemma ofHeaders_eq (hkeys : options.allowApiKey = false)
    (hsame : outside keyHeaders hs' = outside keyHeaders hs) :
    Credential.ofHeaders hs' cookie options = Credential.ofHeaders hs cookie options := by
  unfold Credential.ofHeaders CookieConfig.read Csrf.headerToken? Headers.firstText?
  rw [hkeys, values_eq (by decide) hsame, values_eq (by decide) hsame]
  rfl

lemma answer_otherSessions {c : Call} (hc : OfKeys c) (w : World) (sessions : SessionStore) :
    World.answer c { w with sessions } = ((World.answer c w).1, { (World.answer c w).2 with sessions }) := by
  cases c with
  | insertKey k =>
    simp only [World.answer, World.insertKey]
    split <;> rfl
  | now => rfl
  | generate bytes => rfl
  | listKeys userId => rfl
  | getKey id => rfl
  | findKey digest => rfl
  | revokeKey id moment => rfl
  | _ => exact hc.elim

lemma answer_otherKeys {c : Call} (hc : OfSessions c) (w : World) (keys : ApiKeyStore) :
    World.answer c { w with keys } = ((World.answer c w).1, { (World.answer c w).2 with keys }) := by
  cases c with
  | saveSession s ttl =>
    simp only [World.answer, World.saveSession]
    split <;> rfl
  | now => rfl
  | generate bytes => rfl
  | loadSession id => rfl
  | deleteSession id => rfl
  | _ => exact hc.elim

lemma perform_otherSessions {p : Procedure α} (h : Only OfKeys p) (w : World) (sessions : SessionStore) :
    World.perform { w with sessions } p = ((w.perform p).1, { (w.perform p).2 with sessions }) :=
  only_commutes (fun _ w hc => answer_otherSessions hc w sessions) h w

lemma perform_otherKeys {p : Procedure α} (h : Only OfSessions p) (w : World) (keys : ApiKeyStore) :
    World.perform { w with keys } p = ((w.perform p).1, { (w.perform p).2 with keys }) :=
  only_commutes (fun _ w hc => answer_otherKeys hc w keys) h w

lemma ofHeaders_apiKey {token : String} (hkeys : options.allowApiKey = true)
    (htoken : Credential.apiKeyToken? hs = some token) :
    Credential.ofHeaders hs cookie options = .apiKey token := by
  unfold Credential.ofHeaders
  rw [hkeys, if_pos rfl, htoken]

lemma only_authenticate_apiKey (sv : Service) (token : String) (m : Http.Method) :
    Only OfKeys (sv.authenticate (.apiKey token) m).run :=
  only_bind (only_authenticateKey sv.hash token m) fun _ => .done _

lemma authenticate_apiKey_snd (sv : Service) (w : World) (token : String) (m : Http.Method) :
    (w.perform (sv.authenticate (.apiKey token) m).run).2 = w := by
  have hkey := perform_authenticateKey_snd sv.hash w token m
  unfold authenticate authenticateApiKey
  rw [perform_bind]
  generalize w.perform (ApiKey.authenticate sv.hash token m).run = ending at hkey ⊢
  obtain ⟨r, w'⟩ := ending
  cases r with
  | none => exact hkey
  | some r => cases r <;> exact hkey

lemma only_authenticate_withoutKey (sv : Service) (hkeys : options.allowApiKey = false) (hs : Headers)
    (cookie : CookieConfig) (m : Http.Method) :
    Only OfSessions (sv.authenticate (Credential.ofHeaders hs cookie options) m).run := by
  unfold Credential.ofHeaders
  rw [hkeys, if_neg Bool.false_ne_true]
  dsimp only
  split
  · exact only_bind (only_authenticateSession sv _ m _) fun _ => .done _
  · exact .done _

lemma headerToken?_eq_some {token : String} (h : Csrf.headerToken? hs = some token) :
    (hs.firstText? Csrf.headerName).map Text.trimChars = some token.toList := by
  unfold Csrf.headerToken? at h
  cases htext : hs.firstText? Csrf.headerName with
  | none =>
    rw [htext] at h
    cases h
  | some text =>
    rw [htext] at h
    simp only [Option.bind_eq_bind, Option.bind_some] at h
    split at h
    · cases h
    · cases h
      rw [String.toList_ofList]
      rfl

/-- Who is let in without a key has named a session that is on file, and with a method that may change
something has sent its token back. -/
lemma authenticate_session_ok {a : Authentication} (hm : m.isSafe = false)
    (hnone : options.allowApiKey = true → Credential.apiKeyToken? hs = none)
    (hok : (w.perform (sv.authenticate (Credential.ofHeaders hs cookie options) m).run).1 = some (.ok a)) :
    ∃ id e, cookie.read hs = some id ∧ w.sessions.get? id = some e ∧
      (hs.firstText? Csrf.headerName).map Text.trimChars = some e.session.csrfToken.toList := by
  have hkey : (if options.allowApiKey then Credential.apiKeyToken? hs else none) = none := by
    split
    · rename_i hkeys
      exact hnone hkeys
    · rfl
  unfold Credential.ofHeaders at hok
  rw [hkey] at hok
  dsimp only at hok
  cases hread : (if options.allowSession then cookie.read hs else none) with
  | none =>
    rw [hread] at hok
    cases hok
  | some id =>
    rw [hread] at hok
    unfold authenticate at hok
    dsimp only at hok
    rw [perform_bind] at hok
    cases hrun : w.perform (sv.authenticateSession id m (Csrf.headerToken? hs)).run with
    | mk r w' =>
      rw [hrun] at hok
      cases r with
      | none => cases hok
      | some r =>
        cases r with
        | error e => cases hok
        | ok auth =>
          obtain ⟨s, hlive, hverify, _⟩ := liveSession_of_authenticate (congrArg Prod.fst hrun)
          obtain ⟨evictAt, hget, _⟩ := hlive.kept
          rw [Csrf.verify_iff] at hverify
          rcases hverify with hsafe | ⟨hsent, _⟩
          · rw [hm] at hsafe
            cases hsafe
          · split at hread
            · exact ⟨id, ⟨s, evictAt⟩, hread, hget, headerToken?_eq_some hsent⟩
            · cases hread

lemma isSafe_eq_false (h : m ≠ .get ∧ m ≠ .head ∧ m ≠ .options) : m.isSafe = false := by
  unfold Method.isSafe
  rw [decide_eq_false h.1, decide_eq_false h.2.1, decide_eq_false h.2.2]
  rfl

/-- Let a request be authenticated in any state. If keys count and it carries the token of one, then nothing
is written, and the answer is the same whatever the cookies, the tokens against forgery and the sessions
are. If keys do not count, then the answer and all that changes are the same whatever the headers with
tokens of keys and the keys are, and the keys are left alone. And unless it is judged by a key or has a safe
method, it is let in only if its cookie names a session on file and the first token against forgery, without
the blanks around it, is the one of that session. -/
theorem credentials_never_mix (sv : Service) (w : World) (hs : Headers) (cookie : CookieConfig)
    (options : AuthOptions) (m : Http.Method) :
    let request := fun hs => (sv.authenticate (Credential.ofHeaders hs cookie options) m).run
    (options.allowApiKey = true → Credential.apiKeyToken? hs ≠ none → (w.perform (request hs)).2 = w ∧
      ∀ hs' sessions, outside sessionHeaders hs' = outside sessionHeaders hs →
        World.perform { w with sessions } (request hs') = ((w.perform (request hs)).1, { w with sessions })) ∧
    (options.allowApiKey = false → (w.perform (request hs)).2.keys = w.keys ∧
      ∀ hs' keys, outside keyHeaders hs' = outside keyHeaders hs →
        World.perform { w with keys } (request hs') =
          ((w.perform (request hs)).1, { (w.perform (request hs)).2 with keys })) ∧
    ((options.allowApiKey = true → Credential.apiKeyToken? hs = none) → m ≠ .get ∧ m ≠ .head ∧ m ≠ .options →
      ∀ a, (w.perform (request hs)).1 = some (.ok a) → ∃ id e, cookie.read hs = some id ∧
        w.sessions.get? id = some e ∧
          (hs.firstText? Csrf.headerName).map Text.trimChars = some e.session.csrfToken.toList) := by
  intro request
  refine ⟨fun hkeys hsome => ?_, fun hkeys => ?_, fun hnone hm a hok =>
    authenticate_session_ok (isSafe_eq_false hm) hnone hok⟩
  · obtain ⟨token, htoken⟩ := Option.ne_none_iff_exists'.1 hsome
    have hrequest : ∀ hs', outside sessionHeaders hs' = outside sessionHeaders hs →
        request hs' = (sv.authenticate (.apiKey token) m).run := by
      intro hs' hsame
      have htoken' : Credential.apiKeyToken? hs' = some token := by rw [apiKeyToken?_eq hsame, htoken]
      simp only [request, ofHeaders_apiKey hkeys htoken']
    rw [hrequest hs rfl]
    refine ⟨authenticate_apiKey_snd sv w token m, fun hs' sessions hsame => ?_⟩
    rw [hrequest hs' hsame, perform_otherSessions (only_authenticate_apiKey sv token m),
      authenticate_apiKey_snd sv w token m]
  · have honly := only_authenticate_withoutKey sv hkeys hs cookie m
    refine ⟨keys_perform (only_mono (fun _ => ofLogins_of_ofSessions) honly) w, fun hs' keys hsame => ?_⟩
    simp only [request, ofHeaders_eq hkeys hsame]
    exact perform_otherKeys honly w keys

/-- A request with a cookie and all that goes with it, and with a token that no key belongs to. -/
def strayHeaders : Headers := ⟨"authorization", valueOfText "Bearer sk_x"⟩ :: revokeRequest.headers

/-- The token of no key bars the way where keys count, with or without a session. Where they do not, it does
no harm, and the session lets the request in. -/
theorem credentials_never_mix_furnished :
    let request := fun options hs =>
      (hourService.authenticate (Credential.ofHeaders hs hourSite.cookie options) .delete).run
    (furnishedWorld.perform (request {} strayHeaders)).1 = some (.error .notAuthenticated) ∧
      (World.perform { furnishedWorld with sessions := Table.empty }
        (request {} (outside sessionHeaders strayHeaders))).1 = some (.error .notAuthenticated) ∧
      (World.perform { furnishedWorld with keys := ApiKeyStore.empty }
        (request .sessionOnly revokeRequest.headers)).1 =
          (furnishedWorld.perform (request .sessionOnly strayHeaders)).1 ∧
      (furnishedWorld.perform (request .sessionOnly strayHeaders)).1 =
        some (.ok ⟨⟨"u", "r"⟩, .session, some ⟨"ses_a", "u", "r", "c", .epoch, atSecond 10, atSecond 3610⟩⟩) ∧
      ∃ id e, hourSite.cookie.read strayHeaders = some id ∧ furnishedWorld.sessions.get? id = some e ∧
        (strayHeaders.firstText? Csrf.headerName).map Text.trimChars = some e.session.csrfToken.toList := by
  have hboth := credentials_never_mix hourService furnishedWorld strayHeaders hourSite.cookie {} .delete
  have hsession :=
    credentials_never_mix hourService furnishedWorld strayHeaders hourSite.cookie .sessionOnly .delete
  dsimp only at hboth hsession ⊢
  have hignored := (hboth.1 rfl (by decide +kernel)).2 (outside sessionHeaders strayHeaders) Table.empty
    (by decide +kernel)
  have hunread := (hsession.2.1 rfl).2 revokeRequest.headers ApiKeyStore.empty (by decide +kernel)
  rw [hignored, hunread]
  refine ⟨by decide +kernel, by decide +kernel, rfl, by decide +kernel, ?_⟩
  refine hsession.2.2 (fun hkeys => by cases hkeys) (by decide)
    ⟨⟨"u", "r"⟩, .session, some ⟨"ses_a", "u", "r", "c", .epoch, atSecond 10, atSecond 3610⟩⟩ ?_
  decide +kernel

end Gatehouse.Proofs
