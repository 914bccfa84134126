import Gatehouse.Proofs.CallKinds
import Gatehouse.Proofs.KeyHistory
import Gatehouse.Proofs.LiveSession
import Gatehouse.Proofs.SessionAcceptance

/-!
# Everything that goes on

A run in which everything is mixed: logins, logouts, authentications with sessions and with keys, operations
on keys, purges. Whatever is done in the name of other sessions leaves a session alone, and so does an
authentication with the session itself that is refused.
-/

namespace Gatehouse.Proofs
open SessionPolicy Service

inductive Activity where
  | service (step : ServiceStep)
  | key (step : KeyStep)
  | purgeLimiter
deriving DecidableEq

inductive ActivityAnswer where
  | service (answer : ServiceAnswer)
  | key (answer : KeyAnswer)
  | purged
deriving DecidableEq

abbrev ActivityEvent := Event Activity ActivityAnswer

def takeActivity (sv : Service) (w : World) : Activity → ActivityAnswer × World
  | .service step => (.service (takeServiceStep sv w step).1, (takeServiceStep sv w step).2)
  | .key step => (.key (takeKeyStep sv.hash w step).1, (takeKeyStep sv.hash w step).2)
  | .purgeLimiter => (.purged, w.purgeLimiter.2)

def activityRun (sv : Service) : World → List (Instant × Activity) → World × List ActivityEvent :=
  worldRun (takeActivity sv)

variable {p : SessionPolicy} {sv : Service} {w : World} {id : String} {s : Session}

lemma sessions_keyStep (hash : String → String) (w : World) (step : KeyStep) :
    (takeKeyStep hash w step).2.sessions = w.sessions := by
  cases step <;> simp only [takeKeyStep, replying]
  case create owner name scope => exact sessions_perform (only_createKey hash owner name scope) w
  case list owner => exact sessions_perform (only_listKeys owner) w
  case revoke owner id => exact sessions_perform (only_revokeById owner id) w
  case authenticate token m => exact sessions_perform (only_authenticateKey hash token m) w

lemma sessions_purgeLimiter (w : World) : w.purgeLimiter.2.sessions = w.sessions := by
  unfold World.purgeLimiter
  split <;> rfl

/-- A store after something was done under an identifier. -/
inductive TouchedAt (p : SessionPolicy) (id : String) (st : SessionStore) : SessionStore → Prop
  | untouched : TouchedAt p id st st
  | erased : TouchedAt p id st (st.erase id)
  | written (s : Session) (evictAt : Instant) (own : s.id = id) (bounded : Bounded p s)
      (evicted : evictionOf? s = some evictAt) : TouchedAt p id st (st.insert id ⟨s, evictAt⟩)

lemma storeFiled_touched {st st' : SessionStore} (hst : StoreFiled p st) (h : TouchedAt p id st st') :
    StoreFiled p st' := by
  cases h with
  | untouched => exact hst
  | erased => exact storeFiled_erase hst id
  | written s evictAt own bounded evicted =>
    rw [← own]
    exact storeFiled_insert hst bounded evicted

lemma get?_touched {st st' : SessionStore} {id' : String} (h : TouchedAt p id st st') (hne : id' ≠ id) :
    st'.get? id' = st.get? id' := by
  cases h with
  | untouched => rfl
  | erased => rw [Table.get?_erase, if_neg hne]
  | written s evictAt _ _ _ => rw [Table.get?_insert, if_neg hne]

lemma get_touches (hst : StoreFiled p w.sessions) (id : String) :
    TouchedAt p id w.sessions (w.perform (p.get id).run).2.sessions := by
  rw [perform_get]
  split
  · exact .untouched
  cases hget : w.sessions.get? id with
  | none => exact .untouched
  | some e =>
    simp only
    split
    · cases p.pastMaxAge? e.session w.now with
      | none => exact .untouched
      | some past =>
        simp only
        split
        · rw [(hst id e hget).own]
          exact .erased
        · exact .untouched
    · exact .erased

lemma authenticate_touches (hst : StoreFiled sv.policy w.sessions) (id : String) (m : Http.Method)
    (csrf : Option String) :
    TouchedAt sv.policy id w.sessions (w.perform (sv.authenticateSession id m csrf).run).2.sessions := by
  have htouched := get_touches hst id
  rw [perform_authenticateSession]
  cases hget : w.perform (sv.policy.get id).run with
  | mk found w' =>
    rw [hget] at htouched
    cases found with
    | none => exact htouched
    | some found =>
      cases found with
      | error e => exact htouched
      | ok s =>
        obtain ⟨⟨⟨evictAt, hfiled, _⟩, _, _⟩, rfl⟩ := liveSession_of_get hget rfl
        have hown := (hst id _ hfiled).own
        simp only
        split
        · rcases refresh_cases sv.policy w' s with hrun | ⟨_, hrun⟩ | hrun |
            ⟨expiresAt, evictAt, _, hbounded, hevict, hrun⟩
          · rw [hrun]
            exact .untouched
          · rw [hrun, ← hown]
            exact .erased
          · rw [hrun]
            exact .untouched
          · rw [hrun, ← hown]
            exact .written _ evictAt rfl hbounded hevict
        · exact .untouched

lemma login_touches (sv : Service) (w : World) (email password : String) (ip : Option String) :
    (w.perform (sv.login email password ip).run).2.sessions = w.sessions ∨
      ∃ o, (w.perform (sv.login email password ip).run).1 = some (.ok o) ∧
        TouchedAt sv.policy o.session.id w.sessions
          (w.perform (sv.login email password ip).run).2.sessions := by
  rcases login_ends sv w email password ip with ⟨_, _, _, _, hrun⟩ |
    ⟨_, _, _, _, evictAt, _, hbounded, hevict, hrun⟩
  · rw [hrun]
    exact Or.inl rfl
  · rw [hrun]
    exact Or.inr ⟨_, rfl, .written _ evictAt rfl hbounded hevict⟩

lemma storeFiled_login (hst : StoreFiled sv.policy w.sessions) (email password : String)
    (ip : Option String) :
    StoreFiled sv.policy (w.perform (sv.login email password ip).run).2.sessions := by
  rcases login_touches sv w email password ip with hsame | ⟨o, _, htouched⟩
  · rw [hsame]
    exact hst
  · exact storeFiled_touched hst htouched

lemma storeFiled_activity (hst : StoreFiled sv.policy w.sessions) (activity : Activity) :
    StoreFiled sv.policy (takeActivity sv w activity).2.sessions := by
  cases activity with
  | key step =>
    simp only [takeActivity, sessions_keyStep]
    exact hst
  | purgeLimiter =>
    simp only [takeActivity, sessions_purgeLimiter]
    exact hst
  | service step =>
    cases step with
    | login email password ip =>
      simp only [takeActivity, takeServiceStep, replying]
      exact storeFiled_login hst email password ip
    | logout id =>
      simp only [takeActivity, takeServiceStep, replying, perform_logout]
      by_cases hempty : Text.trim id = ""
      · rw [if_pos hempty]
        exact hst
      · rw [if_neg hempty]
        exact storeFiled_erase hst (Text.trim id)
    | authenticate id m csrf =>
      simp only [takeActivity, takeServiceStep, replying]
      exact storeFiled_touched hst (authenticate_touches hst id m csrf)
    | purge => exact storeFiled_purge hst w.now

lemma activityRun_filed (sv : Service) (w : World) (hst : StoreFiled sv.policy w.sessions)
    (steps : List (Instant × Activity)) : StoreFiled sv.policy (activityRun sv w steps).1.sessions :=
  worldRun_keeps (P := fun w _ => StoreFiled sv.policy w.sessions) hst
    (fun w _ t step h => storeFiled_activity (w := { w with now := t }) h step) steps

/-- An authentication with a session that is to be let in. Where the method needs it, the token of the session
comes with it, and a session without a token is good for safe methods only. -/
def visits (id csrfToken : String) : Activity → Bool
  | .service (.authenticate id' m csrf) =>
    id' = id && (m.isSafe || csrf = some csrfToken && csrfToken ≠ "")
  | _ => false

/-- No logout ends the session, and no login is given its identifier. -/
def spares (id : String) (event : ActivityEvent) : Bool :=
  (match event.step with
    | .service (.logout id') => Text.trim id' ≠ id
    | _ => true) &&
  match event.answer with
  | .service (some (.ok (.loggedIn o))) => o.session.id ≠ id
  | _ => true

lemma visits_iff {csrfToken : String} {m : Http.Method} {csrf : Option String} :
    visits id csrfToken (.service (.authenticate id m csrf)) = true ↔
      m.isSafe = true ∨ csrf = some csrfToken ∧ csrfToken ≠ "" := by
  simp [visits]

lemma authenticate_refused (hid : Text.isBlankText id = false) (hlive : LiveSession sv.policy w id s)
    {m : Http.Method} {csrf : Option String}
    (hvisit : visits id s.csrfToken (.service (.authenticate id m csrf)) = false) :
    w.perform (sv.authenticateSession id m csrf).run = (some (.error .notAllowed), w) := by
  refine authenticate_of_not_verified hid hlive fun hverify => ?_
  exact Bool.false_ne_true (hvisit.symm.trans (visits_iff.2 (Csrf.verify_iff.1 hverify)))

lemma get?_of_others (hst : StoreFiled sv.policy w.sessions) (hid : Text.isBlankText id = false)
    (hlive : LiveSession sv.policy w id s) (activity : Activity)
    (hvisit : visits id s.csrfToken activity = false)
    (hspared : spares id ⟨w.now, activity, (takeActivity sv w activity).1⟩ = true) :
    (takeActivity sv w activity).2.sessions.get? id = w.sessions.get? id := by
  cases activity with
  | key step => simp only [takeActivity, sessions_keyStep]
  | purgeLimiter => simp only [takeActivity, sessions_purgeLimiter]
  | service step =>
    cases step with
    | login email password ip =>
      simp only [takeActivity, takeServiceStep, replying] at hspared ⊢
      rcases login_touches sv w email password ip with hsame | ⟨o, hanswer, htouched⟩
      · rw [hsame]
      · rw [hanswer] at hspared
        have hother : o.session.id ≠ id := of_decide_eq_true hspared
        exact get?_touched htouched (Ne.symm hother)
    | logout id' =>
      simp only [takeActivity, takeServiceStep, replying, perform_logout]
      by_cases hempty : Text.trim id' = ""
      · rw [if_pos hempty]
      · rw [if_neg hempty]
        have hother : Text.trim id' ≠ id := of_decide_eq_true (Bool.and_eq_true_iff.1 hspared).1
        show (w.sessions.erase (Text.trim id')).get? id = _
        rw [Table.get?_erase, if_neg (Ne.symm hother)]
    | authenticate id' m csrf =>
      simp only [takeActivity, takeServiceStep, replying]
      by_cases hsame : id' = id
      · subst hsame
        rw [authenticate_refused hid hlive hvisit]
      · exact get?_touched (authenticate_touches hst id' m csrf) (Ne.symm hsame)
    | purge =>
      obtain ⟨evictAt, hget, hlt⟩ := hlive.kept
      show (w.sessions.purgeExpired w.now).get? id = _
      rw [SessionStore.get?_purgeExpired, hget, Option.filter_some, if_pos (decide_eq_true hlt)]

end Gatehouse.Proofs
