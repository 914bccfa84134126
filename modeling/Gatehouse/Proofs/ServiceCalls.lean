import Gatehouse.Proofs.SessionInvariant
import Gatehouse.Service.Basic

/-!
# What the service does to a world

A login leaves the sessions as they were, or it ends with a new one. A logout drops a session. An
authentication is a look-up, a check against forgery and a refresh, and each of them may end it.
-/

namespace Gatehouse.Proofs
open Service

lemma attempt_world (w : World) (key : String) :
    ∃ decision limiter, w.attempt key = (decision, { w with limiter }) := by
  unfold World.attempt
  cases w.limiter with
  | none => exact ⟨some (.ok ⟨true, 0⟩), w.limiter, rfl⟩
  | some l => exact ⟨_, _, rfl⟩

lemma charge_world (w : World) (key : String) :
    ∃ result limiter, w.perform (charge key).run = (result, { w with limiter }) := by
  obtain ⟨decision, limiter, hattempt⟩ := attempt_world w key
  unfold charge
  simp only [perform_bind, perform_ask, World.answer, hattempt, perform_orTell]
  cases decision with
  | none => exact ⟨none, limiter, rfl⟩
  | some decision =>
    cases decision with
    | error e => exact ⟨_, limiter, rfl⟩
    | ok d =>
      simp only [Option.map_some, mapError_ok]
      cases d.allowed with
      | true => exact ⟨_, limiter, rfl⟩
      | false => exact ⟨_, limiter, rfl⟩

/-- How a login may end: without a result, which leaves the sessions as they were, or with a new session. -/
def LoginEnds (sv : Service) (w : World) (r : Option (Except AuthError LoginOutcome) × World) : Prop :=
  (∃ result limiter issued, (∀ o, result ≠ some (.ok o)) ∧
    r = (result, { w with limiter, tokens := { w.tokens with issued } })) ∨
  ∃ limiter userId role expiresAt evictAt, sv.policy.cappedExpiry? w.now w.now = some expiresAt ∧
    Bounded sv.policy (newSession sv.policy w userId role expiresAt) ∧
    evictionOf? (newSession sv.policy w userId role expiresAt) = some evictAt ∧
    r = (some (.ok ⟨⟨userId, role⟩, newSession sv.policy w userId role expiresAt⟩),
      fileSession (drawTokens { w with limiter }) (newSession sv.policy w userId role expiresAt) evictAt)

variable {sv : Service} {w : World}

lemma loginEnds_throw (e : AuthError) :
    LoginEnds sv w (w.perform (throw e : Attempt AuthError LoginOutcome).run) :=
  Or.inl ⟨some (.error e), w.limiter, w.tokens.issued, (fun o ho => by cases ho), rfl⟩

lemma loginEnds_charge (key : String) (f : Unit → Attempt AuthError LoginOutcome)
    (hf : ∀ w' : World, LoginEnds sv w' (w'.perform (f ()).run)) :
    LoginEnds sv w (w.perform (charge key >>= f).run) := by
  obtain ⟨result, limiter, hcharge⟩ := charge_world w key
  rw [perform_bind, hcharge]
  cases result with
  | none => exact Or.inl ⟨none, limiter, w.tokens.issued, (fun o ho => by cases ho), rfl⟩
  | some result =>
    cases result with
    | error e => exact Or.inl ⟨some (.error e), limiter, w.tokens.issued, (fun o ho => by cases ho), rfl⟩
    | ok _ => exact hf { w with limiter }

lemma loginEnds_address (ip : Option String) (f : Unit → Attempt AuthError LoginOutcome)
    (hf : ∀ w' : World, LoginEnds sv w' (w'.perform (f ()).run)) :
    LoginEnds sv w (w.perform (match addressKey? ip with
      | some key => charge key >>= f
      | none => f ()).run) := by
  cases addressKey? ip with
  | none => exact hf w
  | some key => exact loginEnds_charge key f hf

lemma loginEnds_create (user : User) :
    LoginEnds sv w (w.perform (do
      let session ← Attempt.retell (fun _ => AuthError.internal "failed to create session")
        (sv.policy.create user.id user.role)
      return (⟨⟨user.id, user.role⟩, session⟩ : LoginOutcome)).run) := by
  rw [perform_bind, perform_retell]
  rcases create_cases sv.policy w user.id user.role with hrun |
    ⟨expiresAt, evictAt, hexpiry, hbounded, hevict, hrun⟩
  · rw [hrun]
    exact Or.inl ⟨none, w.limiter, w.tokens.issued + 2, (fun o ho => by cases ho), rfl⟩
  · rw [hrun]
    exact Or.inr ⟨w.limiter, user.id, user.role, expiresAt, evictAt, hexpiry, hbounded, hevict, rfl⟩

lemma login_ends (sv : Service) (w : World) (email password : String) (ip : Option String) :
    LoginEnds sv w (w.perform (sv.login email password ip).run) := by
  unfold login
  dsimp only
  split
  · exact loginEnds_throw _
  split
  · exact loginEnds_throw _
  refine loginEnds_address ip _ fun w' => loginEnds_charge _ _ fun w'' => ?_
  simp only [perform_bind, perform_ask, World.answer, Option.map_some, perform_orTell, mapError_ok]
  cases w''.users.findByEmail? (normalEmail email) with
  | none => exact loginEnds_throw _
  | some user =>
    simp only [perform_bind, perform_ask, World.answer, Option.map_some, perform_orTell, mapError_ok]
    split
    · exact loginEnds_throw _
    · exact loginEnds_create user

lemma perform_logout (w : World) (id : String) :
    w.perform (logout id).run =
      (some (.ok ()), if Text.trim id = "" then w else dropSession w (Text.trim id)) := by
  unfold logout
  dsimp only
  split
  · rfl
  · rw [perform_retell, perform_delete]
    rfl

/-- What a refresh comes to in an authentication. -/
def authenticated (r : Option (Except SessionError (Session × Bool)) × World) :
    Option (Except AuthError SessionAuth) × World :=
  (r.1.map fun r => (r.mapError ofSessionError).map fun r => ⟨⟨r.1.userId, r.1.role⟩, r.1, r.2⟩, r.2)

lemma perform_authenticateSession (sv : Service) (w : World) (id : String) (m : Http.Method)
    (csrf : Option String) :
    w.perform (sv.authenticateSession id m csrf).run =
      match w.perform (sv.policy.get id).run with
      | (none, w') => (none, w')
      | (some (.error e), w') => (some (.error (ofSessionError e)), w')
      | (some (.ok s), w') =>
        if Csrf.verify m csrf s.csrfToken then authenticated (w'.perform (sv.policy.refresh s).run)
        else (some (.error .notAllowed), w') := by
  simp only [authenticateSession, perform_bind, perform_retell]
  cases w.perform (sv.policy.get id).run with
  | mk found w' =>
    cases found with
    | none => rfl
    | some found =>
      cases found with
      | error e => rfl
      | ok s =>
        simp only [Option.map_some, mapError_ok]
        cases Csrf.verify m csrf s.csrfToken with
        | false => rfl
        | true =>
          simp only [Bool.not_true, Bool.false_eq_true, if_false, if_true, perform_bind, perform_retell]
          cases w'.perform (sv.policy.refresh s).run with
          | mk refreshed w'' =>
            cases refreshed with
            | none => rfl
            | some refreshed => cases refreshed <;> rfl

end Gatehouse.Proofs
