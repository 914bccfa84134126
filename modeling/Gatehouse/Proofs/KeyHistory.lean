import Gatehouse.Proofs.KeyCalls
import Gatehouse.Proofs.SessionLedger
import Gatehouse.Proofs.Trimming
import Gatehouse.Proofs.WorldRun
import Gatehouse.Token

/-!
# Which tokens are accepted

A key stands from the moment it is made until its owner revokes it. The history of a run tells which keys
stand at its end, and that is all a token is judged by: it acts for the owner of the standing key that it
belongs to, within the scope of that key, and every other token is refused in the same words.
-/

namespace Gatehouse.Proofs

inductive KeyStep where
  | create (owner : Principal) (name scope : String)
  | list (owner : Principal)
  | revoke (owner : Principal) (id : String)
  | authenticate (token : String) (m : Http.Method)
deriving DecidableEq

inductive KeyReply where
  | created (c : ApiKey.Created)
  | listed (keys : List ApiKey)
  | revoked
  | authenticated (p : Principal)
deriving DecidableEq

abbrev KeyAnswer := Option (Except AuthError KeyReply)

abbrev KeyEvent := Event KeyStep KeyAnswer

def takeKeyStep (hash : String → String) (w : World) : KeyStep → KeyAnswer × World
  | .create owner name scope => replying .created (w.perform (ApiKey.create hash owner name scope).run)
  | .list owner => replying .listed (w.perform (ApiKey.list owner).run)
  | .revoke owner id => replying (fun _ => .revoked) (w.perform (ApiKey.revokeById owner id).run)
  | .authenticate token m => replying .authenticated (w.perform (ApiKey.authenticate hash token m).run)

def keyRun (hash : String → String) : World → List (Instant × KeyStep) → World × List KeyEvent :=
  worldRun (takeKeyStep hash)

def Makes (owner : Principal) (c : ApiKey.Created) (event : KeyEvent) : Prop :=
  (∃ name scope, event.step = .create owner name scope) ∧ event.answer = some (.ok (.created c))

/-- The owner of a key asked for its revocation and was told that it is done. -/
def Revokes (k : ApiKey) (event : KeyEvent) : Prop :=
  (∃ owner id, event.step = .revoke owner id ∧ owner.userId = k.userId ∧ Text.trim id = k.id) ∧
    event.answer = some (.ok .revoked)

/-- A key was made for an owner in the course of a history, whose last event comes first, and has not been
revoked since. -/
def Stands (owner : Principal) (c : ApiKey.Created) : List KeyEvent → Prop
  | [] => False
  | event :: earlier => Makes owner c event ∨ Stands owner c earlier ∧ ¬ Revokes c.key event

/-- What holds of every key when it is made. -/
structure Genuine (hash : String → String) (owner : Principal) (c : ApiKey.Created) : Prop where
  owned : c.key.userId = owner.userId ∧ c.key.userRole = owner.role
  hashed : c.key.tokenHash = hash c.token
  marked : ∃ rest, c.token = "sk_" ++ rest
  unrevoked : c.key.revokedAt = none

/-- A store agrees with a history: it holds the keys that stand, just as they were made, and of all the others
it knows that they are revoked. -/
structure Books (hash : String → String) (st : ApiKeyStore) (events : List KeyEvent) : Prop where
  indexed : Indexed st
  genuine : ∀ owner c, Stands owner c events → Genuine hash owner c
  kept : ∀ owner c, Stands owner c events → st.get? c.key.id = some c.key
  known : ∀ id k, st.get? id = some k → k.revokedAt = none → ∃ owner token, Stands owner ⟨k, token⟩ events

variable {hash : String → String} {w : World} {st st' : ApiKeyStore} {events : List KeyEvent}
  {event : KeyEvent} {owner : Principal} {c : ApiKey.Created} {k : ApiKey}

lemma genuine_nextKey (w : World) (owner : Principal) (name : String) (scope : Scope) :
    Genuine hash owner ⟨nextKey hash w owner name scope, nextToken w⟩ where
  owned := ⟨rfl, rfl⟩
  hashed := rfl
  marked := ⟨_, rfl⟩
  unrevoked := rfl

lemma books_idle (h : Books hash st events) (hmakes : ∀ owner c, ¬ Makes owner c event)
    (hrevokes : ∀ k, ¬ Revokes k event) : Books hash st (event :: events) := by
  have hstands : ∀ owner c, Stands owner c (event :: events) ↔ Stands owner c events := by
    intro owner c
    constructor
    · rintro (hnew | ⟨hold, _⟩)
      · exact absurd hnew (hmakes owner c)
      · exact hold
    · exact fun hold => Or.inr ⟨hold, hrevokes c.key⟩
  refine ⟨h.indexed, fun owner c hc => h.genuine owner c ((hstands owner c).1 hc),
    fun owner c hc => h.kept owner c ((hstands owner c).1 hc), fun id k hk hlive => ?_⟩
  obtain ⟨owner, token, hc⟩ := h.known id k hk hlive
  exact ⟨owner, token, (hstands owner ⟨k, token⟩).2 hc⟩

lemma books_other (h : Books hash st events)
    (hcreate : ∀ owner name scope, event.step ≠ .create owner name scope)
    (hrevoke : ∀ owner id, event.step ≠ .revoke owner id) : Books hash st (event :: events) := by
  refine books_idle h ?_ ?_
  · rintro owner _ ⟨⟨name, scope, hstep⟩, _⟩
    exact hcreate owner name scope hstep
  · rintro _ ⟨⟨owner, id, hstep, _⟩, _⟩
    exact hrevoke owner id hstep

lemma books_refused (h : Books hash st events) {e : AuthError} (hanswer : event.answer = some (.error e)) :
    Books hash st (event :: events) := by
  refine books_idle h ?_ ?_
  · rintro _ _ ⟨_, hmade⟩
    rw [hanswer] at hmade
    cases hmade
  · rintro _ ⟨_, hrevoked⟩
    rw [hanswer] at hrevoked
    cases hrevoked

lemma books_insert (h : Books hash st events) (hc : Genuine hash owner c)
    (hinsert : st.insert c.key = .ok st') (hmakes : Makes owner c event) :
    Books hash st' (event :: events) := by
  obtain ⟨hnew, _, _⟩ := ApiKeyStore.insert_eq_ok_iff.1 hinsert
  obtain ⟨⟨name, scope, hstep⟩, hanswer⟩ := hmakes
  have hrevokes : ∀ k, ¬ Revokes k event := by
    rintro k ⟨⟨_, _, hstep', _⟩, _⟩
    rw [hstep] at hstep'
    cases hstep'
  have hstands : ∀ owner' c', Stands owner' c' (event :: events) →
      owner' = owner ∧ c' = c ∨ Stands owner' c' events := by
    rintro owner' c' (⟨⟨_, _, hstep'⟩, hanswer'⟩ | ⟨hold, _⟩)
    · rw [hstep] at hstep'
      rw [hanswer] at hanswer'
      cases hstep'
      cases hanswer'
      exact Or.inl ⟨rfl, rfl⟩
    · exact Or.inr hold
  refine ⟨indexed_insert h.indexed hinsert, fun owner' c' hc' => ?_, fun owner' c' hc' => ?_,
    fun id k hk hlive => ?_⟩
  · rcases hstands owner' c' hc' with ⟨rfl, rfl⟩ | hold
    · exact hc
    · exact h.genuine owner' c' hold
  · rw [get?_of_insert hinsert]
    rcases hstands owner' c' hc' with ⟨rfl, rfl⟩ | hold
    · rw [if_pos rfl]
    · have hkept := h.kept owner' c' hold
      have hne : c'.key.id ≠ c.key.id := by
        intro heq
        rw [heq] at hkept
        exact Option.some_ne_none c'.key (hkept.symm.trans hnew)
      rw [if_neg hne]
      exact hkept
  · rw [get?_of_insert hinsert] at hk
    split at hk
    · cases hk
      exact ⟨owner, c.token, Or.inl ⟨⟨name, scope, hstep⟩, hanswer⟩⟩
    · obtain ⟨owner', token, hold⟩ := h.known id k hk hlive
      exact ⟨owner', token, Or.inr ⟨hold, hrevokes k⟩⟩

lemma books_revoke {id : String} (gone : ApiKey) (h : Books hash st events) (hindexed : Indexed st')
    (hk : st.get? (Text.trim id) = some k)
    (hget : ∀ id', st'.get? id' = if id' = Text.trim id then some gone else st.get? id')
    (hgone : gone.revokedAt ≠ none) (howner : k.userId = owner.userId)
    (hstep : event.step = .revoke owner id) (hanswer : event.answer = some (.ok .revoked)) :
    Books hash st' (event :: events) := by
  have hstands : ∀ owner' c', Stands owner' c' (event :: events) →
      Stands owner' c' events ∧ ¬ Revokes c'.key event := by
    rintro owner' c' (⟨⟨_, _, hstep'⟩, _⟩ | hold)
    · rw [hstep] at hstep'
      cases hstep'
    · exact hold
  refine ⟨hindexed, fun owner' c' hc' => h.genuine owner' c' (hstands owner' c' hc').1,
    fun owner' c' hc' => ?_, fun id' k' hk' hlive => ?_⟩
  -- a standing key under this identifier would be the one that its owner has revoked just now
  · obtain ⟨hold, hspared⟩ := hstands owner' c' hc'
    have hkept := h.kept owner' c' hold
    have hne : c'.key.id ≠ Text.trim id := by
      intro heq
      have hsame : c'.key = k := Option.some.inj (hkept.symm.trans (heq ▸ hk))
      exact hspared ⟨⟨owner, id, hstep, hsame ▸ howner.symm, heq.symm⟩, hanswer⟩
    rw [hget, if_neg hne]
    exact hkept
  · rw [hget] at hk'
    split at hk'
    · cases hk'
      exact absurd hlive hgone
    · rename_i hne
      obtain ⟨owner', token, hold⟩ := h.known id' k' hk' hlive
      refine ⟨owner', token, Or.inr ⟨hold, ?_⟩⟩
      rintro ⟨⟨_, _, hstep', _, hnamed⟩, _⟩
      rw [hstep] at hstep'
      cases hstep'
      exact hne ((h.indexed.own id' k' hk').symm.trans hnamed.symm)

lemma books_create (h : Books hash w.keys events) (owner : Principal) (name scope : String) :
    Books hash (takeKeyStep hash w (.create owner name scope)).2.keys
      (⟨w.now, .create owner name scope, (takeKeyStep hash w (.create owner name scope)).1⟩ :: events) := by
  simp only [takeKeyStep, replying, perform_createKey]
  cases Scope.ofText scope with
  | error e => exact books_refused h rfl
  | ok scope' =>
    simp only
    cases hinsert : w.keys.insert (nextKey hash w owner name scope') with
    | error _ => exact books_refused h rfl
    | ok keys => exact books_insert h (genuine_nextKey w owner name scope') hinsert ⟨⟨name, scope, rfl⟩, rfl⟩

lemma books_revokeById (h : Books hash w.keys events) (owner : Principal) (id : String) :
    Books hash (takeKeyStep hash w (.revoke owner id)).2.keys
      (⟨w.now, .revoke owner id, (takeKeyStep hash w (.revoke owner id)).1⟩ :: events) := by
  simp only [takeKeyStep, replying, perform_revokeById]
  split
  · exact books_refused h rfl
  · cases howned : (w.keys.get? (Text.trim id)).filter fun k => k.userId = owner.userId with
    | none => exact books_refused h rfl
    | some k =>
      obtain ⟨hk, howner⟩ := Option.filter_eq_some_iff.1 howned
      simp only
      cases hrevoked : k.isRevoked with
      | true =>
        refine books_revoke k h h.indexed hk (fun id' => ?_) (Option.isSome_iff_ne_none.1 hrevoked)
          (of_decide_eq_true howner) rfl rfl
        show w.keys.get? id' = _
        split
        · rename_i heq
          rw [heq]
          exact hk
        · rfl
      | false =>
        refine books_revoke (k.revoke w.now) h (indexed_revoke h.indexed _ w.now) hk (fun id' => ?_)
          (Option.some_ne_none _) (of_decide_eq_true howner) rfl rfl
        simp only [Bool.false_eq_true, if_false, ApiKeyStore.get?_revoke, hk, Option.map_some]

lemma perform_authenticateKey_snd (hash : String → String) (w : World) (token : String) (m : Http.Method) :
    (w.perform (ApiKey.authenticate hash token m).run).2 = w := by
  rw [perform_authenticateKey]
  split
  · rfl
  · split
    · rfl
    · split <;> rfl

lemma books_step (h : Books hash w.keys events) (step : KeyStep) :
    Books hash (takeKeyStep hash w step).2.keys (⟨w.now, step, (takeKeyStep hash w step).1⟩ :: events) := by
  cases step with
  | create owner name scope => exact books_create h owner name scope
  | list owner => exact books_other h (fun _ _ _ hstep => by cases hstep) fun _ _ hstep => by cases hstep
  | revoke owner id => exact books_revokeById h owner id
  | authenticate token m =>
    simp only [takeKeyStep, replying, perform_authenticateKey_snd]
    exact books_other h (fun _ _ _ hstep => by cases hstep) fun _ _ hstep => by cases hstep

lemma books_empty (hash : String → String) : Books hash ApiKeyStore.empty [] where
  indexed := indexed_empty
  genuine := fun owner c hc => hc.elim
  kept := fun owner c hc => hc.elim
  known := fun id k hk _ => by cases hk

lemma keyRun_books (hash : String → String) (w : World) (steps : List (Instant × KeyStep)) :
    Books hash (keyRun hash { w with keys := ApiKeyStore.empty } steps).1.keys
      (keyRun hash { w with keys := ApiKeyStore.empty } steps).2 :=
  worldRun_keeps (P := fun w events => Books hash w.keys events) (books_empty hash)
    (fun w _ t step h => books_step (w := { w with now := t }) h step) steps

/-- A token belongs to a key that stands. -/
structure Opens (hash : String → String) (events : List KeyEvent) (token : String) (owner : Principal)
    (c : ApiKey.Created) : Prop where
  named : Text.trim token ≠ ""
  stands : Stands owner c events
  same : hash c.token = hash (Text.trim token)

lemma owner_eq (h : Genuine hash owner c) : owner = ⟨c.key.userId, c.key.userRole⟩ := by
  rw [h.owned.1, h.owned.2]

/-- What a look-up by hash finds, revoked keys left aside, is the standing key of a token of that hash. -/
lemma findLive_eq_some_iff (h : Books hash st events) (digest : String) :
    ((st.findByHash? digest).filter fun k => !k.isRevoked) = some k ↔
      ∃ owner c, Stands owner c events ∧ c.key = k ∧ hash c.token = digest := by
  rw [Option.filter_eq_some_iff, findByHash?_eq_some_iff h.indexed]
  constructor
  · rintro ⟨⟨hk, hdigest⟩, hlive⟩
    rw [Bool.not_eq_true', isRevoked_eq_false_iff] at hlive
    obtain ⟨owner, token, hc⟩ := h.known k.id k hk hlive
    exact ⟨owner, ⟨k, token⟩, hc, rfl, (h.genuine owner _ hc).hashed.symm.trans hdigest⟩
  · rintro ⟨owner, c, hc, rfl, hdigest⟩
    have hg := h.genuine owner c hc
    refine ⟨⟨h.kept owner c hc, hg.hashed.trans hdigest⟩, ?_⟩
    rw [Bool.not_eq_true', isRevoked_eq_false_iff]
    exact hg.unrevoked

lemma authenticate_of_opens (h : Books hash w.keys events) {token : String}
    (hopens : Opens hash events token owner c) (m : Http.Method) :
    (w.perform (ApiKey.authenticate hash token m).run).1 =
      some (if c.key.scope.allows m then .ok owner else .error .notAllowed) := by
  have hfound := (findLive_eq_some_iff h (hash (Text.trim token))).2
    ⟨owner, c, hopens.stands, rfl, hopens.same⟩
  rw [perform_authenticateKey, if_neg hopens.named, hfound, owner_eq (h.genuine owner c hopens.stands)]
  simp only
  split <;> rfl

lemma authenticate_of_not_opens (h : Books hash w.keys events) {token : String}
    (hnone : ∀ owner c, ¬ Opens hash events token owner c) (m : Http.Method) :
    (w.perform (ApiKey.authenticate hash token m).run).1 = some (.error .notAuthenticated) := by
  rw [perform_authenticateKey]
  by_cases hempty : Text.trim token = ""
  · rw [if_pos hempty]
  · rw [if_neg hempty]
    cases hfound : (w.keys.findByHash? (hash (Text.trim token))).filter fun k => !k.isRevoked with
    | none => rfl
    | some k =>
      obtain ⟨owner, c, hc, _, hsame⟩ := (findLive_eq_some_iff h _).1 hfound
      exact absurd ⟨hempty, hc, hsame⟩ (hnone owner c)

lemma authenticate_cases (h : Books hash w.keys events) (token : String) (m : Http.Method) :
    (∃ owner c, Opens hash events token owner c ∧
      (w.perform (ApiKey.authenticate hash token m).run).1 =
        some (if c.key.scope.allows m then .ok owner else .error .notAllowed)) ∨
    (∀ owner c, ¬ Opens hash events token owner c) ∧
      (w.perform (ApiKey.authenticate hash token m).run).1 = some (.error .notAuthenticated) := by
  by_cases hopens : ∃ owner c, Opens hash events token owner c
  · obtain ⟨owner, c, hopens⟩ := hopens
    exact Or.inl ⟨owner, c, hopens, authenticate_of_opens h hopens m⟩
  · have hnone := fun owner c hopens' => hopens ⟨owner, c, hopens'⟩
    exact Or.inr ⟨hnone, authenticate_of_not_opens h hnone m⟩

lemma opens_padded (h : Books tokenHash st events) (hc : Stands owner c events) {front back : String}
    (hfront : Text.isBlankText front = true) (hback : Text.isBlankText back = true) :
    Opens tokenHash events (front ++ c.token ++ back) owner c where
  named := by
    rw [trim_padded hfront hback, ne_eq, Text.trim_eq_empty_iff]
    obtain ⟨rest, hrest⟩ := (h.genuine owner c hc).marked
    rw [hrest, Text.isBlankText, String.toList_append]
    simp [Text.isBlank]
  stands := hc
  same := by
    unfold tokenHash
    rw [trim_trim, trim_padded hfront hback]

/-- After every run of key operations from an empty store, a token is accepted if and only if it belongs to a
key that stands and whose scope allows the method, and then it acts for the one who made the key; where the
scope does not allow the method, that is what is told; every other token is refused as not authenticated. The
token of a standing key belongs to it whatever blanks there are around it. -/
theorem authenticate_iff_key_stands (w : World) (steps : List (Instant × KeyStep)) (now : Instant)
    (m : Http.Method) :
    let run := keyRun tokenHash { w with keys := ApiKeyStore.empty } steps
    let answer := fun token =>
      (World.perform { run.1 with now := now } (ApiKey.authenticate tokenHash token m).run).1
    (∀ token p, answer token = some (.ok p) ↔
      ∃ c, Opens tokenHash run.2 token p c ∧ c.key.scope.allows m = true) ∧
    (∀ token, answer token = some (.error .notAllowed) ↔
      ∃ owner c, Opens tokenHash run.2 token owner c ∧ c.key.scope.allows m = false) ∧
    (∀ token, answer token = some (.error .notAuthenticated) ↔
      ∀ owner c, ¬ Opens tokenHash run.2 token owner c) ∧
    (∀ owner c front back, Stands owner c run.2 → Text.isBlankText front = true →
      Text.isBlankText back = true →
      answer (front ++ c.token ++ back) =
        some (if c.key.scope.allows m then .ok owner else .error .notAllowed)) := by
  intro run answer
  have hbooks : Books tokenHash ({ run.1 with now := now } : World).keys run.2 :=
    keyRun_books tokenHash w steps
  have hopened : ∀ {token owner c}, Opens tokenHash run.2 token owner c →
      answer token = some (if c.key.scope.allows m then .ok owner else .error .notAllowed) :=
    fun hopens => authenticate_of_opens hbooks hopens m
  have hcases := fun token => authenticate_cases hbooks token m
  refine ⟨fun token p => ⟨fun hok => ?_, ?_⟩, fun token => ⟨fun hnot => ?_, ?_⟩,
    fun token => ⟨fun hnot owner c hopens => ?_, fun hnone => authenticate_of_not_opens hbooks hnone m⟩,
    fun owner c front back hc hfront hback => hopened (opens_padded hbooks hc hfront hback)⟩
  · obtain ⟨owner, c, hopens, hanswer⟩ | ⟨_, hanswer⟩ := hcases token
    · have hanswer := Option.some.inj (hok.symm.trans hanswer)
      split at hanswer
      · rename_i hallows
        cases hanswer
        exact ⟨c, hopens, hallows⟩
      · cases hanswer
    · cases Option.some.inj (hok.symm.trans hanswer)
  · rintro ⟨c, hopens, hallows⟩
    rw [hopened hopens, if_pos hallows]
  · obtain ⟨owner, c, hopens, hanswer⟩ | ⟨_, hanswer⟩ := hcases token
    · have hanswer := Option.some.inj (hnot.symm.trans hanswer)
      split at hanswer
      · cases hanswer
      · rename_i hrefuses
        exact ⟨owner, c, hopens, Bool.eq_false_iff.2 hrefuses⟩
    · cases Option.some.inj (hnot.symm.trans hanswer)
  · rintro ⟨owner, c, hopens, hrefuses⟩
    rw [hopened hopens, if_neg (Bool.eq_false_iff.1 hrefuses)]
  · have hanswer := Option.some.inj (hnot.symm.trans (hopened hopens))
    split at hanswer <;> cases hanswer

def doorWorld : World where
  now := .epoch
  tokens := countedTokens

def doorSteps : List (Instant × KeyStep) :=
  [(atSecond 20, .revoke ⟨"v", "r"⟩ "key_aa"), (atSecond 10, .create ⟨"u", "r"⟩ "door" "read")]

def doorCreated : ApiKey.Created :=
  ⟨nextKey tokenHash { doorWorld with now := atSecond 10 } ⟨"u", "r"⟩ "door" .read, "sk_a"⟩

def doorRun : World × List KeyEvent := keyRun tokenHash { doorWorld with keys := ApiKeyStore.empty } doorSteps

/-- A key for reading, which somebody else has tried to revoke, opens to its token with blanks around it. -/
theorem authenticate_iff_key_stands_door :
    Stands ⟨"u", "r"⟩ doorCreated doorRun.2 ∧
      (World.perform { doorRun.1 with now := atSecond 30 }
        (ApiKey.authenticate tokenHash " sk_a\n" ⟨"GET"⟩).run).1 = some (.ok ⟨"u", "r"⟩) := by
  have hstands : Stands ⟨"u", "r"⟩ doorCreated doorRun.2 := by
    refine Or.inr ⟨Or.inl ⟨⟨"door", "read", rfl⟩, rfl⟩, ?_⟩
    rintro ⟨⟨_, _, hstep, howner, _⟩, _⟩
    cases hstep
    exact absurd howner (by decide)
  have hexact := authenticate_iff_key_stands doorWorld doorSteps (atSecond 30) ⟨"GET"⟩
  have hpadded := hexact.2.2.2 _ _ " " "\n" hstands (by decide) (by decide)
  exact ⟨hstands, hpadded⟩

end Gatehouse.Proofs
