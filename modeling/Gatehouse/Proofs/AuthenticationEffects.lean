import Gatehouse.Proofs.CallTrace
import Gatehouse.Proofs.LiveSession
import Gatehouse.Proofs.RefreshEffects

/-!
# What an authentication leaves behind

A store of sessions is whatever its own operations have made of an empty one. In every such store an
authentication touches the entry under its identifier and no other, and its answer tells how: what is not
recognized is gone, what is not allowed or left alone is as before, and what has been refreshed is there
with its new end.
-/

namespace Gatehouse.Proofs
open SessionPolicy Service

variable {sv : Service} {p : SessionPolicy} {w : World} {id : String}

inductive StoreStep where
  | save (s : Session) (ttl : Span)
  | load (id : String)
  | delete (id : String)
  | purge
deriving DecidableEq

/-- A store after one of its operations. A session that cannot be kept is not saved. -/
def takeStoreStep (st : SessionStore) (now : Instant) : StoreStep → SessionStore
  | .save s ttl =>
    match st.save now s ttl with
    | some (.ok st') => st'
    | _ => st
  | .load id => (st.load now id).2
  | .delete id => st.delete id
  | .purge => st.purgeExpired now

/-- What operations make of an empty store, each at a clock reading of its own, the last one first in the
list. -/
def storeRun : List (Instant × StoreStep) → SessionStore
  | [] => Table.empty
  | (now, step) :: earlier => takeStoreStep (storeRun earlier) now step

def Reached (st : SessionStore) : Prop := ∃ steps, storeRun steps = st

lemma reached_step {st : SessionStore} (h : Reached st) (now : Instant) (step : StoreStep) :
    Reached (takeStoreStep st now step) := by
  obtain ⟨steps, rfl⟩ := h
  exact ⟨(now, step) :: steps, rfl⟩

lemma reached_answer (h : Reached w.sessions) (c : Call) : Reached (World.answer c w).2.sessions := by
  cases c with
  | saveSession s ttl =>
    have hsaved := reached_step h w.now (.save s ttl)
    simp only [takeStoreStep] at hsaved
    simp only [World.answer, World.saveSession]
    cases hsave : w.sessions.save w.now s ttl with
    | none => exact h
    | some result =>
      rw [hsave] at hsaved
      cases result with
      | error e => exact h
      | ok st => exact hsaved
  | loadSession id => exact reached_step h w.now (.load id)
  | deleteSession id => exact reached_step h w.now (.delete id)
  | attempt key =>
    obtain ⟨_, _, hattempt⟩ := attempt_world w key
    simp only [World.answer, hattempt]
    exact h
  | insertKey k =>
    simp only [World.answer, World.insertKey]
    split <;> exact h
  | _ => exact h

lemma reached_perform {α : Type} (h : Reached w.sessions) (proc : Procedure α) :
    Reached (w.perform proc).2.sessions :=
  perform_keeps (I := fun w => Reached w.sessions) (fun c _ h => reached_answer h c) proc h

/-- Every entry is filed under the identifier of its session. -/
def Placed (st : SessionStore) : Prop := ∀ id e, st.get? id = some e → e.session.id = id

lemma placed_erase {st : SessionStore} (h : Placed st) (id : String) : Placed (st.erase id) := by
  intro id' e he
  rw [Table.get?_erase] at he
  split at he
  · cases he
  · exact h id' e he

lemma placed_step {st : SessionStore} (h : Placed st) (now : Instant) (step : StoreStep) :
    Placed (takeStoreStep st now step) := by
  cases step with
  | save s ttl =>
    unfold takeStoreStep
    dsimp only
    split
    · rename_i hsave
      obtain ⟨_, evictAt, _, rfl⟩ := SessionStore.save_eq_ok_iff.1 hsave
      intro id e he
      rw [Table.get?_insert] at he
      split at he
      · rename_i hid
        cases he
        exact hid.symm
      · exact h id e he
    · exact h
  | load id =>
    simp only [takeStoreStep, SessionStore.load]
    split
    · exact h
    · split
      · exact h
      · exact placed_erase h id
  | delete id => exact placed_erase h id
  | purge =>
    intro id e he
    have he : (st.purgeExpired now).get? id = some e := he
    rw [SessionStore.get?_purgeExpired, Option.filter_eq_some_iff] at he
    exact h id e he.1

lemma placed_of_reached {st : SessionStore} (h : Reached st) : Placed st := by
  obtain ⟨steps, rfl⟩ := h
  induction steps with
  | nil => exact fun id e he => by cases he
  | cons last earlier ih => exact placed_step ih last.1 last.2

/-- Everything that an authentication reckons with lies in the range of instants. -/
structure Reckoning (p : SessionPolicy) (w : World) (id : String) : Prop where
  refreshed : InRange p w.now
  limited : ∀ e, w.sessions.get? id = some e → Limited p e.session

/-- What an authentication answers, along with what it leaves behind. -/
inductive AuthenticationEnds (p : SessionPolicy) (w : World) (id : String) :
    Option (Except AuthError SessionAuth) × World → Prop
  | brokenDown (outside : ¬ Reckoning p w id) : AuthenticationEnds p w id (none, w)
  | unrecognized : AuthenticationEnds p w id (some (.error .notAuthenticated), dropSession w id)
  | refused : AuthenticationEnds p w id (some (.error .notAllowed), w)
  | unchanged (e : StoredSession) (filed : w.sessions.get? id = some e) :
    AuthenticationEnds p w id (some (.ok ⟨⟨e.session.userId, e.session.role⟩, e.session, false⟩), w)
  | renewed (e : StoredSession) (expiresAt evictAt : Instant) (filed : w.sessions.get? id = some e)
      (own : e.session.id = id) (later : e.session.expiresAt < expiresAt) :
    AuthenticationEnds p w id
      (some (.ok
        ⟨⟨e.session.userId, e.session.role⟩, { e.session with expiresAt, lastRefreshedAt := w.now }, true⟩),
        fileSession w { e.session with expiresAt, lastRefreshedAt := w.now } evictAt)

lemma get_ends (hplaced : Placed w.sessions) (hid : Text.isBlankText id = false) :
    (∃ e, w.sessions.get? id = some e ∧ ¬ Limited p e.session ∧ w.perform (p.get id).run = (none, w)) ∨
      w.perform (p.get id).run = (some (.error .notFound), dropSession w id) ∨
      ∃ e, w.sessions.get? id = some e ∧ w.perform (p.get id).run = (some (.ok e.session), w) := by
  rw [perform_get, if_neg (by rw [hid]; decide)]
  cases hget : w.sessions.get? id with
  | none =>
    refine Or.inr (Or.inl ?_)
    simp only [dropSession, Table.erase_of_get?_eq_none hget]
  | some e =>
    dsimp only
    split
    · cases hpast : p.pastMaxAge? e.session w.now with
      | none => exact Or.inl ⟨e, rfl, fun hlimited => pastMaxAge?_of_limited hlimited w.now hpast, rfl⟩
      | some past =>
        dsimp only
        split
        · rw [hplaced id e hget]
          exact Or.inr (Or.inl rfl)
        · exact Or.inr (Or.inr ⟨e, rfl, rfl⟩)
    · exact Or.inr (Or.inl rfl)

lemma authenticate_ends (hplaced : Placed w.sessions) (hid : Text.isBlankText id = false) (m : Http.Method)
    (csrf : Option String) :
    AuthenticationEnds sv.policy w id (w.perform (sv.authenticateSession id m csrf).run) := by
  rw [perform_authenticateSession]
  rcases get_ends (p := sv.policy) hplaced hid with ⟨e, hfiled, hout, hget⟩ | hget | ⟨e, hfiled, hget⟩
  · rw [hget]
    exact .brokenDown fun hreckoning => hout (hreckoning.limited e hfiled)
  · rw [hget]
    exact .unrecognized
  rw [hget]
  dsimp only
  split
  · have hown := hplaced id e hfiled
    have hlater := refresh_later sv.policy w e.session
    rcases refresh_cases sv.policy w e.session with
      hrun | ⟨_, hrun⟩ | hrun | ⟨expiresAt, evictAt, _, _, _, hrun⟩
    · rw [hrun]
      refine .brokenDown fun hreckoning => ?_
      exact refresh_answers hreckoning.refreshed (hreckoning.limited e hfiled) (congrArg Prod.fst hrun)
    · rw [hrun, hown]
      exact .unrecognized
    · rw [hrun]
      exact .unchanged e hfiled
    · rw [hrun] at hlater ⊢
      exact .renewed e expiresAt evictAt hfiled hown (hlater _ rfl)
  · exact .refused

section
variable {r : Option (Except AuthError SessionAuth) × World} {e : AuthError} {a : SessionAuth}

lemma AuthenticationEnds.unauthorized (h : AuthenticationEnds p w id r) (he : r.1 = some (.error e))
    (hkind : e.kind = .unauthorized) : r.2 = dropSession w id := by
  cases h with
  | unrecognized => rfl
  | refused =>
    cases he
    cases hkind
  | _ => cases he

lemma AuthenticationEnds.forbidden (h : AuthenticationEnds p w id r) (he : r.1 = some (.error e))
    (hkind : e.kind = .forbidden) : r.2 = w := by
  cases h with
  | unrecognized =>
    cases he
    cases hkind
  | refused => rfl
  | _ => cases he

lemma AuthenticationEnds.kinds (h : AuthenticationEnds p w id r) (he : r.1 = some (.error e)) :
    e.kind = .unauthorized ∨ e.kind = .forbidden := by
  cases h with
  | unrecognized =>
    cases he
    exact Or.inl rfl
  | refused =>
    cases he
    exact Or.inr rfl
  | _ => cases he

lemma AuthenticationEnds.kept (h : AuthenticationEnds p w id r) (ha : r.1 = some (.ok a))
    (hkept : a.refreshed = false) : r.2 = w := by
  cases h with
  | unchanged e filed => rfl
  | renewed e expiresAt evictAt filed own later =>
    cases ha
    cases hkept
  | _ => cases ha

lemma AuthenticationEnds.moved (h : AuthenticationEnds p w id r) (ha : r.1 = some (.ok a))
    (hrefreshed : a.refreshed = true) :
    ∃ e evictAt, w.sessions.get? id = some e ∧ a.session.id = id ∧ e.session.expiresAt < a.session.expiresAt ∧
      a.session = { e.session with expiresAt := a.session.expiresAt, lastRefreshedAt := w.now } ∧
      r.2 = { w with sessions := w.sessions.insert id ⟨a.session, evictAt⟩ } := by
  cases h with
  | unchanged e filed =>
    cases ha
    cases hrefreshed
  | renewed e expiresAt evictAt filed own later =>
    cases ha
    subst own
    exact ⟨e, evictAt, filed, rfl, later, rfl, rfl⟩
  | _ => cases ha

lemma AuthenticationEnds.others (h : AuthenticationEnds p w id r) {id' : String} (hne : id' ≠ id) :
    r.2.sessions.get? id' = w.sessions.get? id' := by
  cases h with
  | unrecognized => exact (Table.get?_erase _ _ _).trans (if_neg hne)
  | renewed e expiresAt evictAt filed own later =>
    subst own
    exact (Table.get?_insert _ _ _ _).trans (if_neg hne)
  | _ => rfl

lemma AuthenticationEnds.unanswered (h : AuthenticationEnds p w id r) (hnone : r.1 = none) :
    r.2 = w ∧ ¬ Reckoning p w id := by
  cases h with
  | brokenDown outside => exact ⟨rfl, outside⟩
  | _ => cases hnone

end

/-- A live session is safe from requests that change something and do not carry its token. -/
lemma authenticate_forged {s : Session} (hid : Text.isBlankText id = false)
    (hlive : LiveSession sv.policy w id s) {m : Http.Method} (hmethod : m.isSafe = false)
    {csrf : Option String} (hforged : csrf ≠ some s.csrfToken) :
    w.perform (sv.authenticateSession id m csrf).run = (some (.error .notAllowed), w) := by
  refine authenticate_of_not_verified hid hlive fun hverify => ?_
  rw [Csrf.verify_iff, hmethod] at hverify
  rcases hverify with hsafe | ⟨hsame, _⟩
  · cases hsafe
  · exact hforged hsame

/-- Whatever the operations of a store have made of it, and whatever the clock shows, an authentication
under an identifier changes nothing under any other. If it is not recognized, there is nothing under the
identifier afterwards. If it is not allowed, everything is as before, which is what becomes of every request
against a live session that would change something and does not carry the session's token. If it is let in,
everything is as before as well, unless the session has been refreshed; then the session that is told is
there, with a later end and otherwise the same but for the moment of the refresh. There is no other answer,
and there is always one if everything can be reckoned with. -/
theorem authenticate_effects (sv : Service) (w : World) (id : String) (m : Http.Method) (csrf : Option String)
    (hreached : Reached w.sessions) (hid : Text.isBlankText id = false) :
    let ended := w.perform (sv.authenticateSession id m csrf).run
    (∀ e, ended.1 = some (.error e) → e.kind = .unauthorized → ended.2 = dropSession w id) ∧
      (∀ e, ended.1 = some (.error e) → e.kind = .forbidden → ended.2 = w) ∧
      (∀ a, ended.1 = some (.ok a) → a.refreshed = false → ended.2 = w) ∧
      (∀ a, ended.1 = some (.ok a) → a.refreshed = true →
        ∃ e evictAt, w.sessions.get? id = some e ∧ a.session.id = id ∧
          e.session.expiresAt < a.session.expiresAt ∧
          a.session = { e.session with expiresAt := a.session.expiresAt, lastRefreshedAt := w.now } ∧
          ended.2 = { w with sessions := w.sessions.insert id ⟨a.session, evictAt⟩ }) ∧
      (∀ id', id' ≠ id → ended.2.sessions.get? id' = w.sessions.get? id') ∧
      (∀ s, LiveSession sv.policy w id s → m.isSafe = false → csrf ≠ some s.csrfToken →
        ended = (some (.error .notAllowed), w)) ∧
      (∀ e, ended.1 = some (.error e) → e.kind = .unauthorized ∨ e.kind = .forbidden) ∧
      (ended.1 = none → ended.2 = w ∧ ¬ Reckoning sv.policy w id) := by
  intro ended
  have hends : AuthenticationEnds sv.policy w id ended :=
    authenticate_ends (placed_of_reached hreached) hid m csrf
  exact ⟨fun _ => hends.unauthorized, fun _ => hends.forbidden, fun _ => hends.kept, fun _ => hends.moved,
    fun _ => hends.others, fun _ hlive hmethod => authenticate_forged hid hlive hmethod, fun _ => hends.kinds,
    hends.unanswered⟩

/-- Ten seconds after a login a visit moves the end of the session by as much. -/
theorem authenticate_effects_after_login :
    let w : World := { (openWorld.perform (hourService.login "a@b" "p" none).run).2 with now := atSecond 10 }
    let ended := w.perform (hourService.authenticateSession "ses_a" ⟨"GET"⟩ none).run
    Reached w.sessions ∧ Text.isBlankText "ses_a" = false ∧ ∃ a evictAt, ended.1 = some (.ok a) ∧
      a.refreshed = true ∧ a.session.expiresAt = atSecond 3610 ∧
      ended.2 = { w with sessions := w.sessions.insert "ses_a" ⟨a.session, evictAt⟩ } := by
  intro w ended
  have hreached : Reached w.sessions := reached_perform (w := openWorld) ⟨[], rfl⟩ _
  have hid : Text.isBlankText "ses_a" = false := by decide
  obtain ⟨_, _, _, hrenewed, _⟩ := authenticate_effects hourService w "ses_a" ⟨"GET"⟩ none hreached hid
  let s : Session := ⟨"ses_a", "u", "r", "aa", atSecond 0, atSecond 10, atSecond 3610⟩
  have hanswer : ended.1 = some (.ok ⟨⟨"u", "r"⟩, s, true⟩) := rfl
  obtain ⟨_, evictAt, _, _, _, _, hworld⟩ := hrenewed _ hanswer rfl
  exact ⟨hreached, hid, _, evictAt, hanswer, rfl, rfl, hworld⟩

end Gatehouse.Proofs
