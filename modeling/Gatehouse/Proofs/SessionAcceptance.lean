import Gatehouse.Proofs.ServiceCalls
import Gatehouse.Proofs.SessionLedger

/-!
# Which sessions are accepted

Logins grant sessions, logouts take them back, and a request that is authenticated may move the end of its
session. The history of a run is all that counts: a request is accepted exactly when its identifier was
granted, is alive, and a request that may change something carries the token of the grant. Nothing else that
happened to the store can be told from the answers.
-/

namespace Gatehouse.Proofs
open SessionPolicy Service

inductive ServiceStep where
  | login (email password : String) (clientIp : Option String)
  | logout (id : String)
  | authenticate (id : String) (m : Http.Method) (csrfToken : Option String)
  | purge
deriving DecidableEq

inductive ServiceReply where
  | loggedIn (o : LoginOutcome)
  | loggedOut
  | authenticated (a : SessionAuth)
  | purged (count : Nat)
deriving DecidableEq

/-- An answer to a step. No answer means that time arithmetic left the range of instants. -/
abbrev ServiceAnswer := Option (Except AuthError ServiceReply)

def takeServiceStep (sv : Service) (w : World) : ServiceStep → ServiceAnswer × World
  | .login email password clientIp => replying .loggedIn (w.perform (sv.login email password clientIp).run)
  | .logout id => replying (fun _ => .loggedOut) (w.perform (logout id).run)
  | .authenticate id m csrf => replying .authenticated (w.perform (sv.authenticateSession id m csrf).run)
  | .purge => (some (.ok (.purged w.purgeSessions.1)), w.purgeSessions.2)

structure ServiceEvent where
  moment : Instant
  step : ServiceStep
  answer : ServiceAnswer

/-- Runs steps at their clock readings, the last one first in the list. What happened is told in that order
too. -/
def serviceRun (sv : Service) (w : World) : List (Instant × ServiceStep) → World × List ServiceEvent
  | [] => (w, [])
  | (t, step) :: earlier =>
    let before := serviceRun sv w earlier
    let after := takeServiceStep sv { before.1 with now := t } step
    (after.2, ⟨t, step, after.1⟩ :: before.2)

/-- What a login grants, with the end that was written last and the moment when it was written. -/
structure Grant where
  principal : Principal
  csrfToken : String
  expiresAt : Instant
  wroteAt : Instant
deriving DecidableEq

/-- A grant is alive up to its end, as long as the store is to keep it: for the time that was left when its
end was written, and for a second at least. -/
def Grant.Alive (g : Grant) (t : Instant) : Prop :=
  t ≤ g.expiresAt ∧
    ∃ evictAt, g.wroteAt.add? (max (g.expiresAt.since g.wroteAt) 1000000000) = some evictAt ∧ t < evictAt

def noteGrant (granted : String → Option Grant) : ServiceEvent → String → Option Grant
  | ⟨t, _, some (.ok (.loggedIn o))⟩ =>
    Function.update granted o.session.id (some ⟨o.principal, o.session.csrfToken, o.session.expiresAt, t⟩)
  | ⟨_, .logout id, _⟩ => Function.update granted (Text.trim id) none
  | ⟨t, .authenticate id _ _, some (.ok (.authenticated a))⟩ =>
    if a.refreshed then
      Function.update granted id
        ((granted id).map fun g => { g with expiresAt := a.session.expiresAt, wroteAt := t })
    else granted
  | _ => granted

/-- The grants after a history, whose last event comes first. -/
def grantsOf : List ServiceEvent → String → Option Grant
  | [] => fun _ => none
  | event :: earlier => noteGrant (grantsOf earlier) event

def grantOf (s : Session) : Grant := ⟨⟨s.userId, s.role⟩, s.csrfToken, s.expiresAt, s.lastRefreshedAt⟩

/-! ### The simulation -/

/-- What holds of every session that the service gave out. -/
structure Sound (readings : List Instant) (id : String) (s : Session) : Prop where
  own : s.id = id
  named : Text.isBlankText id = false
  guarded : s.csrfToken ≠ ""
  dated : evictionOf? s ≠ none
  plain : (∀ r ∈ readings, r.leap = false) →
    s.createdAt.leap = false ∧ s.lastRefreshedAt.leap = false ∧ s.expiresAt.leap = false

/-- The store agrees with a ledger, and the ledger with the grants. -/
structure Accounts (p : SessionPolicy) (st : SessionStore) (now : Instant) (readings : List Instant)
    (granted : String → Option Grant) (kept : String → Option Session) : Prop where
  ledger : Ledger p st now kept
  grants : ∀ id, granted id = (kept id).map grantOf
  sound : ∀ id s, kept id = some s → Sound readings id s

variable {p : SessionPolicy} {sv : Service} {w : World} {st : SessionStore} {now t : Instant} {s : Session}
  {id : String} {readings : List Instant} {granted : String → Option Grant} {kept : String → Option Session}

lemma accounts_later (h : Accounts p st now readings granted kept) (hle : now ≤ t) :
    Accounts p st t readings granted kept :=
  ⟨ledger_later h.ledger hle, h.grants, h.sound⟩

lemma accounts_reading (h : Accounts p st now readings granted kept) (t : Instant) :
    Accounts p st now (t :: readings) granted kept := by
  refine ⟨h.ledger, h.grants, fun id s hs => ?_⟩
  obtain ⟨hown, hnamed, hguarded, hdated, hplain⟩ := h.sound id s hs
  exact ⟨hown, hnamed, hguarded, hdated, fun hordinary =>
    hplain fun r hr => hordinary r (List.mem_cons_of_mem t hr)⟩

lemma accounts_insert {evictAt : Instant} (h : Accounts p st now readings granted kept) (hs : Bounded p s)
    (hevict : evictionOf? s = some evictAt) (hsound : Sound readings s.id s) :
    Accounts p (st.insert s.id ⟨s, evictAt⟩) now readings
      (Function.update granted s.id (some (grantOf s))) (Function.update kept s.id (some s)) := by
  refine ⟨ledger_insert h.ledger hs hevict, fun id => ?_, fun id s' hs' => ?_⟩
  · simp only [Function.update_apply]
    split
    · rfl
    · exact h.grants id
  · rw [Function.update_apply] at hs'
    split at hs'
    · rename_i heq
      cases hs'
      rw [heq]
      exact hsound
    · exact h.sound id s' hs'

lemma accounts_erase (h : Accounts p st now readings granted kept) (id : String) :
    Accounts p (st.erase id) now readings (Function.update granted id none)
      (Function.update kept id none) := by
  refine ⟨ledger_erase h.ledger id, fun id' => ?_, fun id' s hs => ?_⟩
  · simp only [Function.update_apply]
    split
    · rfl
    · exact h.grants id'
  · rw [Function.update_apply] at hs
    split at hs
    · cases hs
    · exact h.sound id' s hs

lemma accounts_discard (h : Accounts p st now readings granted kept)
    (hdead : ∀ s, kept id = some s → ¬ Lasts s now) : Accounts p (st.erase id) now readings granted kept :=
  ⟨ledger_discard h.ledger hdead, h.grants, h.sound⟩

lemma granted_of_kept (h : Accounts p st now readings granted kept) (hs : kept id = some s) :
    granted id = some (grantOf s) := by
  rw [h.grants, hs]
  rfl

lemma granted_of_blank (h : Accounts p st now readings granted kept) (hblank : Text.isBlankText id = true) :
    granted id = none := by
  rw [h.grants]
  cases hs : kept id with
  | none => rfl
  | some s =>
    have hnamed := (h.sound id s hs).named
    rw [hblank] at hnamed
    cases hnamed

lemma sound_newSession {userId role : String} {expiresAt evictAt : Instant}
    (htokens : ∀ n bytes, w.tokens.text n bytes ≠ "") (hnow : w.now ∈ readings)
    (hexpiry : p.cappedExpiry? w.now w.now = some expiresAt)
    (hevict : evictionOf? (newSession p w userId role expiresAt) = some evictAt) :
    Sound readings (newSession p w userId role expiresAt).id (newSession p w userId role expiresAt) where
  own := rfl
  named := issued_not_blank _
  guarded := htokens _ _
  dated := by
    rw [hevict]
    exact Option.some_ne_none evictAt
  plain := fun hordinary => by
    have hplain : w.now.leap = false := hordinary w.now hnow
    exact ⟨hplain, hplain, cappedExpiry?_ordinary hplain hplain hexpiry⟩

lemma sound_refreshed {expiresAt evictAt : Instant} (h : Sound readings id s) (hnow : now ∈ readings)
    (hexpiry : p.cappedExpiry? s.createdAt now = some expiresAt)
    (hevict : evictionOf? { s with expiresAt, lastRefreshedAt := now } = some evictAt) :
    Sound readings id { s with expiresAt, lastRefreshedAt := now } where
  own := h.own
  named := h.named
  guarded := h.guarded
  dated := by
    rw [hevict]
    exact Option.some_ne_none evictAt
  plain := fun hordinary => by
    have hplain : now.leap = false := hordinary now hnow
    obtain ⟨hcreated, _, _⟩ := h.plain hordinary
    exact ⟨hcreated, hplain, cappedExpiry?_ordinary hcreated hplain hexpiry⟩

lemma authenticate_of_dead (h : Accounts sv.policy w.sessions w.now readings granted kept)
    (hdead : ∀ s, kept id = some s → ¬ Lasts s w.now) (m : Http.Method) (csrf : Option String) :
    ∃ w', w.perform (sv.authenticateSession id m csrf).run = (some (.error .notAuthenticated), w') ∧
      (w' = w ∨ w' = dropSession w id) := by
  rw [perform_authenticateSession]
  cases hblank : Text.isBlankText id with
  | true =>
    rw [perform_get, if_pos hblank]
    exact ⟨w, rfl, Or.inl rfl⟩
  | false =>
    rw [get_of_not_lasts h.ledger hblank hdead]
    exact ⟨dropSession w id, rfl, Or.inr rfl⟩

lemma authenticate_of_lasts (h : Accounts sv.policy w.sessions w.now readings granted kept)
    (hs : kept id = some s) (hlasts : Lasts s w.now) (m : Http.Method) (csrf : Option String) :
    w.perform (sv.authenticateSession id m csrf).run =
      if Csrf.verify m csrf s.csrfToken then authenticated (w.perform (sv.policy.refresh s).run)
      else (some (.error .notAllowed), w) := by
  rw [perform_authenticateSession, get_of_lasts h.ledger (h.sound id s hs).named hs hlasts]

lemma bounded_of_lasts (h : Accounts p st now readings granted kept) (hs : kept id = some s)
    (hlasts : Lasts s now) : Bounded p s := by
  have hnamed := (h.sound id s hs).named
  obtain ⟨e, he⟩ := Option.ne_none_iff_exists'.1 (h.ledger.present id s hnamed hs hlasts)
  obtain rfl : e.session = s := Option.some.inj ((h.ledger.known id e hnamed he).symm.trans hs)
  exact (h.ledger.filed id e he).bounded

lemma authenticate_accounts (h : Accounts sv.policy w.sessions w.now readings granted kept)
    (hnow : w.now ∈ readings) (id : String) (m : Http.Method) (csrf : Option String) :
    ∃ kept', Accounts sv.policy (takeServiceStep sv w (.authenticate id m csrf)).2.sessions w.now readings
      (noteGrant granted ⟨w.now, .authenticate id m csrf, (takeServiceStep sv w (.authenticate id m csrf)).1⟩)
      kept' := by
  simp only [takeServiceStep, replying]
  by_cases hlasts : ∃ s, kept id = some s ∧ Lasts s w.now
  · obtain ⟨s, hs, hlasts⟩ := hlasts
    rw [authenticate_of_lasts h hs hlasts]
    split
    -- what lasts has not reached its hard limit, so the refresh cannot take it out behind the grant
    · have hpast := pastMaxAge?_of_le_expiresAt (bounded_of_lasts h hs hlasts) hlasts.1
      rcases refresh_cases sv.policy w s with hrun | ⟨hlimit, _⟩ | hrun |
        ⟨expiresAt, evictAt, hexpiry, hbounded, hevict, hrun⟩
      · rw [hrun]
        exact ⟨kept, h⟩
      · rw [hpast] at hlimit
        cases hlimit
      · rw [hrun]
        exact ⟨kept, h⟩
      · rw [hrun]
        have hsound := sound_refreshed (h.sound id s hs) hnow hexpiry hevict
        obtain rfl : s.id = id := hsound.own
        refine ⟨Function.update kept s.id (some { s with expiresAt, lastRefreshedAt := w.now }), ?_⟩
        show Accounts sv.policy _ w.now readings (Function.update granted s.id ((granted s.id).map _)) _
        rw [granted_of_kept h hs]
        exact accounts_insert h hbounded hevict hsound
    · exact ⟨kept, h⟩
  -- the entry may go, but the grant stays in the books as one that is dead
  · have hdead : ∀ s, kept id = some s → ¬ Lasts s w.now := fun s hs hl => hlasts ⟨s, hs, hl⟩
    obtain ⟨w', hrun, hw'⟩ := authenticate_of_dead h hdead m csrf
    rw [hrun]
    rcases hw' with rfl | rfl
    · exact ⟨kept, h⟩
    · exact ⟨kept, accounts_discard h hdead⟩

lemma accounts_blank (h : Accounts p st now readings granted kept) (hblank : Text.isBlankText id = true) :
    Accounts p st now readings (Function.update granted id none) kept := by
  have hsame : Function.update granted id none = granted := by
    rw [← granted_of_blank h hblank, Function.update_eq_self]
  rw [hsame]
  exact h

lemma takeServiceStep_accounts (h : Accounts sv.policy w.sessions w.now readings granted kept)
    (htokens : ∀ n bytes, w.tokens.text n bytes ≠ "") (hnow : w.now ∈ readings) (step : ServiceStep) :
    ∃ kept', Accounts sv.policy (takeServiceStep sv w step).2.sessions w.now readings
      (noteGrant granted ⟨w.now, step, (takeServiceStep sv w step).1⟩) kept' := by
  cases step with
  | login email password ip =>
    simp only [takeServiceStep, replying]
    rcases login_ends sv w email password ip with ⟨result, limiter, issued, hresult, hrun⟩ |
      ⟨limiter, userId, role, expiresAt, evictAt, hexpiry, hbounded, hevict, hrun⟩
    · rw [hrun]
      refine ⟨kept, ?_⟩
      cases result with
      | none => exact h
      | some result =>
        cases result with
        | error e => exact h
        | ok o => exact absurd rfl (hresult o)
    · rw [hrun]
      exact ⟨_, accounts_insert h hbounded hevict (sound_newSession htokens hnow hexpiry hevict)⟩
  | logout id =>
    simp only [takeServiceStep, replying, perform_logout]
    by_cases hempty : Text.trim id = ""
    · rw [if_pos hempty]
      refine ⟨kept, ?_⟩
      show Accounts sv.policy w.sessions w.now readings (Function.update granted (Text.trim id) none) kept
      rw [hempty]
      exact accounts_blank h rfl
    · rw [if_neg hempty]
      exact ⟨_, accounts_erase h (Text.trim id)⟩
  | authenticate id m csrf => exact authenticate_accounts h hnow id m csrf
  | purge => exact ⟨kept, ledger_purge h.ledger, h.grants, h.sound⟩

lemma takeServiceStep_text (sv : Service) (w : World) (step : ServiceStep) :
    (takeServiceStep sv w step).2.tokens.text = w.tokens.text := by
  cases step with
  | login email password ip =>
    simp only [takeServiceStep, replying]
    rcases login_ends sv w email password ip with ⟨_, _, _, _, hrun⟩ | ⟨_, _, _, _, _, _, _, _, hrun⟩
    · rw [hrun]
    · rw [hrun]
      rfl
  | logout id =>
    simp only [takeServiceStep, replying, perform_logout]
    split <;> rfl
  | authenticate id m csrf =>
    simp only [takeServiceStep, replying, perform_authenticateSession]
    rcases get_cases sv.policy w id with hget | hget | ⟨id', hget⟩ | ⟨e, _, hget⟩
    · rw [hget]
    · rw [hget]
    · rw [hget]
      rfl
    · rw [hget]
      simp only
      split
      · rcases refresh_cases sv.policy w e.session with hrun | ⟨_, hrun⟩ | hrun | ⟨_, _, _, _, _, hrun⟩ <;>
          rw [hrun] <;> rfl
      · rfl
  | purge => rfl

/-- After every run from an empty store there are accounts that explain the grants of its history. -/
lemma serviceRun_accounts (sv : Service) (w : World) (htokens : ∀ n bytes, w.tokens.text n bytes ≠ "")
    (steps : List (Instant × ServiceStep)) (t : Instant) (hclock : Forward (t :: steps.map Prod.fst)) :
    (serviceRun sv { w with sessions := Table.empty } steps).1.tokens.text = w.tokens.text ∧
      ∃ kept, Accounts sv.policy (serviceRun sv { w with sessions := Table.empty } steps).1.sessions t
        (steps.map Prod.fst) (grantsOf (serviceRun sv { w with sessions := Table.empty } steps).2) kept := by
  induction steps generalizing t with
  | nil =>
    refine ⟨rfl, fun _ => none, ledger_empty sv.policy t, fun id => rfl, fun id s hs => ?_⟩
    cases hs
  | cons last earlier ih =>
    obtain ⟨now, step⟩ := last
    obtain ⟨hlater, hearlier⟩ := List.pairwise_cons.1 hclock
    obtain ⟨htext, kept, haccounts⟩ := ih now hearlier
    obtain ⟨kept', haccounts'⟩ := takeServiceStep_accounts
      (w := { (serviceRun sv { w with sessions := Table.empty } earlier).1 with now := now })
      (accounts_reading haccounts now) (by rw [htext]; exact htokens) List.mem_cons_self step
    refine ⟨(takeServiceStep_text sv _ step).trans htext, kept', ?_⟩
    exact accounts_later haccounts' (hlater now List.mem_cons_self)

/-- Time arithmetic stays in range: the end of a session that is refreshed at an instant can be reckoned with,
and so can the time for which a store is to keep a session that ends then or before. -/
def InRange (p : SessionPolicy) (t : Instant) : Prop :=
  ∃ sliding, t.add? (reckoned p.ttl) = some sliding ∧
    ∀ u, u ≤ sliding → t.add? (max (u.since t) 1000000000) ≠ none

/-- Three seconds before the end of time there is room for every policy that ends by then. -/
lemma inRange_of_room (hroom : t.nanos + reckoned p.ttl + 3000000000 ≤ 8210266876799999999999) :
    InRange p t := by
  have httl := reckoned_nonneg p.ttl
  obtain ⟨sliding, hsliding⟩ := add?_of_le (t := t) httl (by omega)
  refine ⟨sliding, hsliding, fun u hle => ?_⟩
  have hnanos := nanos_add? httl hsliding
  have hsince := since_le t hle
  obtain ⟨evictAt, hevict⟩ := add?_of_le (t := t) (d := max (u.since t) 1000000000) (by omega) (by omega)
  rw [hevict]
  exact Option.some_ne_none evictAt

lemma cappedExpiry?_of_bounded {sliding : Instant} (hs : Bounded p s)
    (hsliding : now.add? (reckoned p.ttl) = some sliding) : p.cappedExpiry? s.createdAt now ≠ none := by
  obtain ⟨expiresAt, hexpiry⟩ :=
    cappedExpiry?_of_add? hsliding fun hmax => (hs.capped hmax).imp fun _ h => h.1
  rw [hexpiry]
  exact Option.some_ne_none expiresAt

lemma refresh_of_inRange (hs : Bounded p s) (hend : w.now ≤ s.expiresAt) (hrange : InRange p w.now) :
    ∃ s' refreshed w', w.perform (p.refresh s).run = (some (.ok (s', refreshed)), w') ∧
      s'.userId = s.userId ∧ s'.role = s.role := by
  obtain ⟨sliding, hsliding, hkept⟩ := hrange
  rw [perform_refresh, pastMaxAge?_of_le_expiresAt hs hend]
  simp only
  cases hdue : p.refreshed? s w.now with
  | none => exact absurd (cappedExpiry?_of_refreshed? hdue) (cappedExpiry?_of_bounded hs hsliding)
  | some due =>
    cases due with
    | none => exact ⟨s, false, w, rfl, rfl, rfl⟩
    | some s' =>
      obtain ⟨expiresAt, hexpiry, _, rfl⟩ := refreshed?_eq_some hdue
      have hle : expiresAt ≤ sliding := cappedExpiry?_le hexpiry hsliding
      obtain ⟨evictAt, hevict⟩ := Option.ne_none_iff_exists'.1 (hkept expiresAt hle)
      simp only [storeTtl_eq, hevict]
      exact ⟨_, true, _, rfl, rfl, rfl⟩

/-- What a grant permits: everything safe, and the rest to whoever has its token. -/
def Grant.Permits (g : Grant) (m : Http.Method) (csrf : Option String) : Prop :=
  m.isSafe = true ∨ csrf = some g.csrfToken

lemma verify_iff_permits (hguarded : s.csrfToken ≠ "") (m : Http.Method) (csrf : Option String) :
    Csrf.verify m csrf s.csrfToken = true ↔ (grantOf s).Permits m csrf := by
  rw [Csrf.verify_iff]
  exact or_congr_right (and_iff_left hguarded)

lemma authenticate_of_permits (h : Accounts sv.policy w.sessions w.now readings granted kept)
    (hs : kept id = some s) (hlasts : Lasts s w.now) (hrange : InRange sv.policy w.now) {m : Http.Method}
    {csrf : Option String} (hpermits : (grantOf s).Permits m csrf) :
    ∃ a, (w.perform (sv.authenticateSession id m csrf).run).1 = some (.ok a) ∧
      a.principal = (grantOf s).principal := by
  have hverify := (verify_iff_permits (h.sound id s hs).guarded m csrf).2 hpermits
  obtain ⟨s', refreshed, w', hrun, huser, hrole⟩ :=
    refresh_of_inRange (bounded_of_lasts h hs hlasts) hlasts.1 hrange
  rw [authenticate_of_lasts h hs hlasts, if_pos hverify, hrun]
  refine ⟨_, rfl, ?_⟩
  show (⟨s'.userId, s'.role⟩ : Principal) = ⟨s.userId, s.role⟩
  rw [huser, hrole]

lemma authenticate_of_not_permits (h : Accounts sv.policy w.sessions w.now readings granted kept)
    (hs : kept id = some s) (hlasts : Lasts s w.now) {m : Http.Method} {csrf : Option String}
    (hpermits : ¬ (grantOf s).Permits m csrf) :
    (w.perform (sv.authenticateSession id m csrf).run).1 = some (.error .notAllowed) := by
  have hverify := mt (verify_iff_permits (h.sound id s hs).guarded m csrf).1 hpermits
  rw [authenticate_of_lasts h hs hlasts, if_neg hverify]

/-- An authentication at the end of any run tells exactly what the history of the run says. It succeeds if and
only if the identifier was granted, the grant is alive, and it permits the request; then the principal is the
one that logged in. Whatever the reason why there is no grant alive, the answer is the same. Outside of leap
seconds a grant is alive until its end, and at its end too if that was written less than a second before. -/
theorem authenticate_iff_granted (sv : Service) (w : World)
    (steps : List (Instant × ServiceStep)) (t : Instant) (id : String) (m : Http.Method)
    (csrf : Option String) (htokens : ∀ n bytes, w.tokens.text n bytes ≠ "")
    (hclock : Forward (t :: steps.map Prod.fst)) (hrange : InRange sv.policy t) :
    let run := serviceRun sv { w with sessions := Table.empty } steps
    let granted := grantsOf run.2 id
    let answer := (({ run.1 with now := t } : World).perform (sv.authenticateSession id m csrf).run).1
    ((∃ a, answer = some (.ok a)) ↔ ∃ g, granted = some g ∧ g.Alive t ∧ g.Permits m csrf) ∧
      (∀ a g, answer = some (.ok a) → granted = some g → a.principal = g.principal) ∧
      ((∀ g, granted = some g → ¬ g.Alive t) → answer = some (.error .notAuthenticated)) ∧
      (∀ g, granted = some g → g.Alive t → ¬ g.Permits m csrf → answer = some (.error .notAllowed)) ∧
      ((∀ r ∈ t :: steps.map Prod.fst, r.leap = false) → ∀ g, granted = some g →
        (g.Alive t ↔ t ≤ g.expiresAt ∧ t.nanos < max g.expiresAt.nanos (g.wroteAt.nanos + 1000000000))) := by
  intro run granted answer
  obtain ⟨_, kept, haccounts⟩ := serviceRun_accounts sv w htokens steps t hclock
  have hkept : ∀ g, granted = some g → ∃ s, kept id = some s ∧ grantOf s = g := by
    intro g hg
    exact Option.map_eq_some_iff.1 ((haccounts.grants id).symm.trans hg)
  have haccepted : ∀ g, granted = some g → g.Alive t → g.Permits m csrf →
      ∃ a, answer = some (.ok a) ∧ a.principal = g.principal := by
    intro g hg halive hpermits
    obtain ⟨s, hs, rfl⟩ := hkept g hg
    exact authenticate_of_permits (w := { run.1 with now := t }) haccounts hs halive hrange hpermits
  have hrefused : ∀ g, granted = some g → g.Alive t → ¬ g.Permits m csrf →
      answer = some (.error .notAllowed) := by
    intro g hg halive hpermits
    obtain ⟨s, hs, rfl⟩ := hkept g hg
    exact authenticate_of_not_permits (w := { run.1 with now := t }) haccounts hs halive hpermits
  have hunknown : (∀ g, granted = some g → ¬ g.Alive t) → answer = some (.error .notAuthenticated) := by
    intro hdead
    obtain ⟨w', hrun, _⟩ := authenticate_of_dead (w := { run.1 with now := t }) haccounts
      (fun s hs => hdead (grantOf s) (granted_of_kept haccounts hs)) m csrf
    exact congrArg Prod.fst hrun
  have honly : ∀ a, answer = some (.ok a) → ∃ g, granted = some g ∧ g.Alive t ∧ g.Permits m csrf := by
    intro a ha
    by_cases halive : ∃ g, granted = some g ∧ g.Alive t
    · obtain ⟨g, hg, halive⟩ := halive
      by_cases hpermits : g.Permits m csrf
      · exact ⟨g, hg, halive, hpermits⟩
      · rw [hrefused g hg halive hpermits] at ha
        cases ha
    · rw [hunknown fun g hg hl => halive ⟨g, hg, hl⟩] at ha
      cases ha
  refine ⟨⟨fun ⟨a, ha⟩ => honly a ha, fun ⟨g, hg, halive, hpermits⟩ => ?_⟩, fun a g ha hg => ?_, hunknown,
    hrefused, fun hordinary g hg => ?_⟩
  · obtain ⟨a, ha, _⟩ := haccepted g hg halive hpermits
    exact ⟨a, ha⟩
  · obtain ⟨g', hg', halive, hpermits⟩ := honly a ha
    obtain rfl : g' = g := Option.some.inj (hg'.symm.trans hg)
    obtain ⟨a', ha', hprincipal⟩ := haccepted g' hg halive hpermits
    rw [ha] at ha'
    cases ha'
    exact hprincipal
  · obtain ⟨s, hs, rfl⟩ := hkept g hg
    have hsound := haccounts.sound id s hs
    obtain ⟨_, hlast, hends⟩ := hsound.plain fun r hr => hordinary r (List.mem_cons_of_mem t hr)
    exact lasts_iff hlast hends (hordinary t List.mem_cons_self) hsound.dated

def hourService : Service := ⟨hourPolicy, tokenHash⟩

/-- A world with one user, and every password is right. -/
def openWorld : World where
  now := .epoch
  tokens := countedTokens
  users := Table.empty.insert "a@b" ⟨"u", "a@b", "", "r"⟩
  verify := fun _ _ => true

def visitSteps : List (Instant × ServiceStep) :=
  [(atSecond 10, .authenticate "ses_a" ⟨"GET"⟩ none), (atSecond 0, .login "a@b" "p" none)]

/-- Within the hour after that the session is still accepted. -/
theorem authenticate_iff_granted_visit :
    (∀ n bytes, openWorld.tokens.text n bytes ≠ "") ∧
      Forward (atSecond 3609 :: visitSteps.map Prod.fst) ∧ InRange hourPolicy (atSecond 3609) ∧
      ∃ a, (({ (serviceRun hourService openWorld visitSteps).1 with now := atSecond 3609 } : World).perform
        (hourService.authenticateSession "ses_a" ⟨"POST"⟩ (some "aa")).run).1 = some (.ok a) := by
  have hclock : Forward (atSecond 3609 :: visitSteps.map Prod.fst) := by decide
  have hrange : InRange hourPolicy (atSecond 3609) := inRange_of_room (by decide)
  have haccepted := (authenticate_iff_granted hourService openWorld visitSteps (atSecond 3609) "ses_a"
    ⟨"POST"⟩ (some "aa") countedTokens_ne hclock hrange).1
  have hgranted : grantsOf (serviceRun hourService openWorld visitSteps).2 "ses_a" =
      some ⟨⟨"u", "r"⟩, "aa", atSecond 3610, atSecond 10⟩ := by decide +kernel
  exact ⟨countedTokens_ne, hclock, hrange, haccepted.2
    ⟨_, hgranted, ⟨by decide, atSecond 3610, by decide, by decide⟩, Or.inr rfl⟩⟩

end Gatehouse.Proofs
