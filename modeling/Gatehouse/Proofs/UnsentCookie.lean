import Gatehouse.Proofs.FailedLogins
import Gatehouse.Proofs.RequestCookies

/-!
# What a failed login leaves behind

The session of a login is filed before its cookie is written. A request to log in that fails leaves the
sessions as they were as long as the cookie can be written. If it cannot, every login that is let in fails
after all, with a session left behind that nobody has been told of; and that is the only way in which a
failed login leaves anything.
-/

namespace Gatehouse.Proofs

variable {site : Site} {w : World} {req : Http.Request}

/-- The response to a login whose cookie cannot be written. -/
def unsentCookie : Http.Response :=
  Http.Response.json 500 (.record [("error", .text "failed to set session cookie")])

lemma loginAnswered_of_unwritten {o : LoginOutcome}
    (h : site.cookie.write o.session.id o.session.expiresAt w.now = none) :
    loginAnswered site (some (.ok o), w) = (some unsentCookie, w) := by
  unfold loginAnswered
  dsimp only
  rw [h]
  rfl

/-- What is left of a login that has failed. -/
inductive Remains (site : Site) (w : World) (req : Http.Request) (r : Http.Response)
    (after : SessionStore) : Prop
  | nothing (hkept : Renderable site.cookie ∨ loginOutcome? site w req = none) (hsame : after = w.sessions)
  | session (o : LoginOutcome) (evictAt : Instant) (hcookie : ¬ Renderable site.cookie)
      (houtcome : loginOutcome? site w req = some o)
      (hid : o.session.id = nextSessionId site.service.policy w)
      (hfiled : after = w.sessions.insert o.session.id ⟨o.session, evictAt⟩)
      (hanswer : r = Site.finish false unsentCookie)

lemma login_remains (hpost : req.method = .post) (hpath : req.path = "/auth/login".toList)
    (htokens : ∀ n bytes, Sendable (w.tokens.text n bytes)) {r : Http.Response}
    (hanswer : (w.perform (site.handle req)).1 = some r) (hfailed : r.status ≠ 200) :
    Remains site w req r (w.perform (site.handle req)).2.sessions := by
  rw [perform_loginHandle hpost hpath] at hanswer ⊢
  dsimp only at hanswer ⊢
  cases loginRequest_ends site w req with
  | refused hnot hsame _ => exact .nothing (Or.inr hnot) hsame
  | granted userId role limiter expiresAt evictAt s hs _ _ _ houtcome hr =>
    have hid : Sendable s.id := by
      rw [hs]
      exact newSession_sendable htokens _ userId role expiresAt
    rw [hr] at hanswer ⊢
    cases hwrite : site.cookie.write s.id s.expiresAt w.now with
    | none =>
      have hcookie : ¬ Renderable site.cookie := fun hrenderable =>
        write_ne_none_iff.2 ⟨hrenderable, hid⟩ hwrite
      have hunsent := loginAnswered_of_unwritten (o := ⟨⟨userId, role⟩, s⟩)
        (w := fileSession (drawTokens { w with limiter }) s evictAt) hwrite
      rw [hunsent] at hanswer ⊢
      refine .session ⟨⟨userId, role⟩, s⟩ evictAt hcookie houtcome ?_ rfl (Option.some.inj hanswer).symm
      rw [hs]
      exact newSession_id _ w userId role expiresAt
    | some cookie =>
      -- whoever is told of a session has been told so with success
      have hsent := loginAnswered_of_write (o := ⟨⟨userId, role⟩, s⟩)
        (w := fileSession (drawTokens { w with limiter }) s evictAt) hwrite
      rw [hsent] at hanswer
      cases hanswer
      rw [status_finish] at hfailed
      exact absurd rfl hfailed

/-- A request to log in that is not answered with success leaves the sessions as they were, unless the
service has let it in and the cookie of the site cannot be written. Then one session is left behind, new and
under the identifier of the token that was drawn for it, and the response speaks of the cookie. -/
theorem failed_login_leaves_session_iff (site : Site) (w : World) (req : Http.Request) (r : Http.Response)
    (hpost : req.method = .post) (hpath : req.path = "/auth/login".toList)
    (htokens : ∀ n bytes, Sendable (w.tokens.text n bytes))
    (hfresh : w.sessions.get? (nextSessionId site.service.policy w) = none)
    (hanswer : (w.perform (site.handle req)).1 = some r) (hfailed : r.status ≠ 200) :
    let after := (w.perform (site.handle req)).2.sessions
    (after ≠ w.sessions ↔ ¬ Renderable site.cookie ∧ loginOutcome? site w req ≠ none) ∧
      (after ≠ w.sessions → r = Site.finish false unsentCookie ∧ after.size = w.sessions.size + 1 ∧
        ∃ o evictAt, loginOutcome? site w req = some o ∧
          after = w.sessions.insert o.session.id ⟨o.session, evictAt⟩) := by
  intro after
  cases login_remains hpost hpath htokens hanswer hfailed with
  | nothing hkept hsame =>
    refine ⟨iff_of_false (fun hne => hne hsame) ?_, fun hne => absurd hsame hne⟩
    rintro ⟨hcookie, houtcome⟩
    exact hkept.elim hcookie houtcome
  | session o evictAt hcookie houtcome hid hfiled hanswer =>
    rw [← hid] at hfresh
    have hsize : after.size = w.sessions.size + 1 := by
      rw [show after = _ from hfiled]
      exact Table.size_insert_of_get?_eq_none _ hfresh
    have hgranted : loginOutcome? site w req ≠ none := by
      rw [houtcome]
      exact Option.some_ne_none o
    have hne : after ≠ w.sessions := by
      intro hsame
      rw [hsame] at hsize
      omega
    exact ⟨iff_of_true hne ⟨hcookie, hgranted⟩, fun _ => ⟨hanswer, hsize, o, evictAt, houtcome, hfiled⟩⟩

/-- A site whose cookie has a line break for its path. -/
def brokenSite : Site := { hourSite with cookie := CookieConfig.ofSettings controlSettings.cookie }

/-- Where no cookie can be written, a login with the right password leaves its session behind. -/
theorem failed_login_leaves_session_behind :
    let req := loginRequest "a@b"
    let after := (openWorld.perform (brokenSite.handle req)).2.sessions
    (openWorld.perform (brokenSite.handle req)).1 = some (Site.finish false unsentCookie) ∧
      after ≠ openWorld.sessions ∧ after.size = 1 := by
  intro req after
  have htokens : ∀ n bytes, Sendable (openWorld.tokens.text n bytes) := fun n bytes =>
    sendable_of_word (countedTokens_word n bytes)
  have hanswer : (openWorld.perform (brokenSite.handle req)).1 = some (Site.finish false unsentCookie) := by
    decide +kernel
  have hgranted : loginOutcome? brokenSite openWorld req ≠ none := by decide +kernel
  have hcookie : ¬ Renderable brokenSite.cookie := fun h => absurd h.path (by decide)
  obtain ⟨hleft, heffect⟩ :=
    failed_login_leaves_session_iff brokenSite openWorld req _ rfl rfl htokens rfl hanswer (by decide)
  have hne := hleft.2 ⟨hcookie, hgranted⟩
  exact ⟨hanswer, hne, (heffect hne).2.1⟩

/-- A failure of a login does not say by itself that nothing has been filed. -/
theorem failed_login_not_without_trace :
    ¬ ∀ (site : Site) (w : World) (req : Http.Request) (r : Http.Response), req.method = .post →
      req.path = "/auth/login".toList → (w.perform (site.handle req)).1 = some r → r.status ≠ 200 →
        (w.perform (site.handle req)).2.sessions = w.sessions := by
  intro htraceless
  have hsame := htraceless brokenSite openWorld (loginRequest "a@b") (Site.finish false unsentCookie) rfl rfl
    (by decide +kernel) (by decide)
  have hsize :
      (openWorld.perform (brokenSite.handle (loginRequest "a@b"))).2.sessions.size = 1 := by decide +kernel
  rw [hsame] at hsize
  cases hsize

end Gatehouse.Proofs
