import Gatehouse.ApiKey.Management
import Gatehouse.Proofs.AttemptRun
import Gatehouse.Proofs.KeyStore

/-!
# What key operations do to a world

One equation for every operation on keys: the answer and the world it leaves. Nothing but the store of keys
and the tokens drawn ever changes, and of these a refusal changes at most the tokens.
-/

namespace Gatehouse.Proofs

variable (hash : String → String) (w : World)

/-- The token that a key made now comes with. -/
def nextToken : String := "sk_" ++ w.tokens.text w.tokens.issued 32

/-- The key that is made now. -/
def nextKey (owner : Principal) (name : String) (scope : Scope) : ApiKey where
  id := "key_" ++ w.tokens.text (w.tokens.issued + 1) 12
  userId := owner.userId
  userRole := owner.role
  name := Text.trim name
  scope := scope
  tokenHash := hash (nextToken w)
  tokenStart := String.ofList ((nextToken w).toList.take 12)
  createdAt := w.now
  revokedAt := none

/-- The world once the token and the identifier of a new key are drawn. -/
def drawKey : World := { w with tokens := { w.tokens with issued := w.tokens.issued + 2 } }

lemma perform_createKey (owner : Principal) (name scope : String) :
    w.perform (ApiKey.create hash owner name scope).run =
      match Scope.ofText scope with
      | .error e => (some (.error e), w)
      | .ok scope =>
        match w.keys.insert (nextKey hash w owner name scope) with
        | .error _ => (some (.error (.internal "failed to create api key")), drawKey w)
        | .ok keys =>
          (some (.ok ⟨nextKey hash w owner name scope, nextToken w⟩), { drawKey w with keys }) := by
  unfold ApiKey.create
  rw [perform_bind, perform_settled]
  cases Scope.ofText scope with
  | error e => rfl
  | ok scope =>
    simp only [perform_bind, perform_ask, World.answer, Option.map_some, TokenSource.next, World.insertKey,
      nextKey, nextToken, drawKey]
    cases w.keys.insert _ <;> rfl

lemma perform_listKeys (owner : Principal) :
    w.perform (ApiKey.list owner).run = (some (.ok (w.keys.listByUser owner.userId)), w) := rfl

lemma perform_revokeById (owner : Principal) (id : String) :
    w.perform (ApiKey.revokeById owner id).run =
      if Text.trim id = "" then (some (.error (.invalidInput "invalid id")), w)
      else match (w.keys.get? (Text.trim id)).filter fun k => k.userId = owner.userId with
        | none => (some (.error (.notFound "api key not found")), w)
        | some k =>
          if k.isRevoked then (some (.ok ()), w)
          else (some (.ok ()), { w with keys := (w.keys.revoke (Text.trim id) w.now).2 }) := by
  unfold ApiKey.revokeById
  dsimp only
  by_cases hempty : Text.trim id = ""
  · rw [if_pos hempty, if_pos hempty]
    rfl
  · rw [if_neg hempty, if_neg hempty]
    simp only [perform_bind, perform_ask, World.answer, Option.map_some, perform_orTell, mapError_ok]
    cases howned : (w.keys.get? (Text.trim id)).filter fun k => k.userId = owner.userId with
    | none => rfl
    | some k =>
      have hfound := revoke_fst w.now (Option.filter_eq_some_iff.1 howned).1
      simp only
      cases k.isRevoked with
      | true => rfl
      | false =>
        simp only [Bool.false_eq_true, if_false, perform_bind, perform_ask, World.answer, Option.map_some,
          perform_orTell, mapError_ok, hfound]
        rfl

lemma perform_authenticateKey (token : String) (m : Http.Method) :
    w.perform (ApiKey.authenticate hash token m).run =
      if Text.trim token = "" then (some (.error .notAuthenticated), w)
      else match (w.keys.findByHash? (hash (Text.trim token))).filter fun k => !k.isRevoked with
        | none => (some (.error .notAuthenticated), w)
        | some k =>
          if k.scope.allows m then (some (.ok ⟨k.userId, k.userRole⟩), w)
          else (some (.error .notAllowed), w) := by
  unfold ApiKey.authenticate
  dsimp only
  by_cases hempty : Text.trim token = ""
  · rw [if_pos hempty, if_pos hempty]
    rfl
  · rw [if_neg hempty, if_neg hempty]
    simp only [perform_bind, perform_ask, World.answer, Option.map_some, perform_orTell, mapError_ok]
    cases (w.keys.findByHash? (hash (Text.trim token))).filter fun k => !k.isRevoked with
    | none => rfl
    | some k =>
      simp only
      cases k.scope.allows m <;> rfl

end Gatehouse.Proofs
