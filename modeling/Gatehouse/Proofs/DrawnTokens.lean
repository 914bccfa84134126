import Gatehouse.Proofs.KeyCalls
import Gatehouse.Proofs.RequestCalls
import Gatehouse.Proofs.SiteRun

/-!
# The tokens of a run

In the course of a run tokens are drawn, and a new session or key is made from tokens drawn just then. As
long as no token comes twice, and a hash tells them all apart, there is room in the store for every new key.
-/

namespace Gatehouse.Proofs
open Service Attempt SessionPolicy

variable {ε α β : Type} {w w' : World} {hash : String → String} {tokens older : List String}
  {st st' : ApiKeyStore}

/-- The token that a call draws. -/
def drawn? : Call × World → Option String
  | (.generate bytes, w) => some (w.tokens.next bytes).1
  | _ => none

/-- The tokens that a procedure draws in a world. -/
def drawnBy (w : World) (p : Procedure α) : List String := (callsOf w p).filterMap drawn?

/-- The tokens that are drawn in the course of a run. -/
def drawnTokens (events : List SiteEvent) : List String :=
  events.flatMap fun event => event.answer.calls.filterMap drawn?

lemma drawnBy_then {p : Procedure α} {a : α} (h : w.perform p = (some a, w')) (f : α → Procedure β) :
    drawnBy w (p >>= f) = drawnBy w p ++ drawnBy w' (f a) := by
  unfold drawnBy
  rw [callsOf_then, h, List.filterMap_append]

lemma drawnBy_first (w : World) (p : Procedure α) (f : α → Procedure β) :
    (drawnBy w p).Sublist (drawnBy w (p >>= f)) := by
  unfold drawnBy
  rw [callsOf_then, List.filterMap_append]
  exact List.sublist_append_left _ _

lemma drawnBy_second {p : Procedure α} {a : α} (h : w.perform p = (some a, w')) (f : α → Procedure β) :
    (drawnBy w' (f a)).Sublist (drawnBy w (p >>= f)) := by
  rw [drawnBy_then h]
  exact List.sublist_append_right _ _

lemma drawnBy_next {p : Attempt ε α} {a : α} (h : w.perform p.run = (some (.ok a), w'))
    (f : α → Attempt ε β) :
    (drawnBy w' (f a).run).Sublist (drawnBy w (p >>= f).run) :=
  drawnBy_second h (ExceptT.bindCont f)

lemma drawnBy_front (w : World) (p : Attempt ε α) (f : α → Attempt ε β) :
    (drawnBy w p.run).Sublist (drawnBy w (p >>= f).run) :=
  drawnBy_first w p.run (ExceptT.bindCont f)

lemma drawnBy_respond (w : World) (p : Attempt AuthError Http.Response) :
    (drawnBy w p.run).Sublist (drawnBy w (respond p)) :=
  drawnBy_first w p.run _

lemma create_draws (p : SessionPolicy) (w : World) (userId role : String) (expiresAt : Instant) :
    ∃ t ∈ drawnBy w (p.create userId role).run, (newSession p w userId role expiresAt).id = "ses_" ++ t :=
  ⟨_, List.mem_cons_self, rfl⟩

lemma examination_draws {sv : Service} {email password : String} {user : User}
    (hfound : w.users.findByEmail? email = some user) (hagrees : w.verify password user.passwordHash = true) :
    (drawnBy w (sv.policy.create user.id user.role).run).Sublist
      (drawnBy w (examination sv email password).run) := by
  have hlookup : w.perform (ask (.findUser email) : Attempt AuthError _).run =
      (some (.ok (.ok (some user))), w) := by
    rw [← hfound]
    rfl
  have hcheck : w.perform (ask (.verifyPassword password user.passwordHash) : Attempt AuthError _).run =
      (some (.ok (.ok true)), w) := by
    rw [← hagrees]
    rfl
  unfold examination
  refine .trans ?_ (drawnBy_next hlookup _)
  refine .trans ?_ (drawnBy_next (perform_orTell w _ _) _)
  refine .trans ?_ (drawnBy_next hcheck _)
  refine .trans ?_ (drawnBy_next (perform_orTell w _ _) _)
  exact (drawnBy_first _ _ _).trans (drawnBy_first _ _ _)

lemma examined_draws {sv : Service} {email password : String} {o : LoginOutcome}
    (h : (examined sv email password w).1 = some (.ok o)) :
    ∃ t ∈ drawnBy w (examination sv email password).run, o.session.id = "ses_" ++ t := by
  unfold examined at h
  cases hright : (w.users.findByEmail? email).filter fun user => w.verify password user.passwordHash with
  | none =>
    rw [hright] at h
    cases h
  | some user =>
    obtain ⟨hfound, hagrees⟩ := Option.filter_eq_some_iff.1 hright
    rw [hright] at h
    dsimp only at h
    rcases create_cases sv.policy w user.id user.role with hrun | ⟨expiresAt, evictAt, _, _, _, hrun⟩
    · rw [hrun] at h
      cases h
    · rw [hrun] at h
      cases h
      obtain ⟨t, ht, hid⟩ := create_draws sv.policy w user.id user.role expiresAt
      exact ⟨t, (examination_draws hfound hagrees).subset ht, hid⟩

lemma login_draws {sv : Service} {email password : String} {ip : Option String} {o : LoginOutcome}
    (h : (w.perform (sv.login email password ip).run).1 = some (.ok o)) :
    ∃ t ∈ drawnBy w (sv.login email password ip).run, o.session.id = "ses_" ++ t := by
  rw [perform_login] at h
  rw [login_eq]
  cases hadmission : w.perform (admission (normalEmail email) (Text.trim password) ip).run with
  | mk admitted w' =>
    rw [hadmission] at h
    cases admitted with
    | none => cases h
    | some admitted =>
      cases admitted with
      | error e => cases h
      | ok _ =>
        obtain ⟨t, ht, hid⟩ := examined_draws h
        exact ⟨t, (drawnBy_next hadmission _).subset ht, hid⟩

lemma loginRequest_draws (site : Site) (w : World) {req : Http.Request} {payload : LoginRequest}
    (hshort : ¬ maxLoginBytes < req.body.length)
    (hpayload : (Json.ofBytes? req.body).bind LoginRequest.ofJson? = some payload) :
    (drawnBy w
      (site.service.login payload.email payload.password (clientAddress? site.trustProxy req)).run).Sublist
      (drawnBy w (site.login req)) := by
  unfold Site.login readMessage
  simp only [if_neg hshort, hpayload, pure_bind]
  exact (drawnBy_front _ _ _).trans (drawnBy_respond _ _)

/-- The two tokens that a key made now is made from. -/
def keyTokens (w : World) : List String :=
  [w.tokens.text w.tokens.issued 32, w.tokens.text (w.tokens.issued + 1) 12]

lemma createKey_draws {text : String} {scope : Scope} (hscope : Scope.ofText text = .ok scope)
    (hash : String → String) (w : World) (owner : Principal) (name : String) :
    (keyTokens w).Sublist (drawnBy w (ApiKey.create hash owner name text).run) := by
  unfold ApiKey.create
  rw [hscope]
  exact .cons_cons _ (.cons_cons _ (List.nil_sublist _))

lemma createKeyRequest_draws (site : Site) (w : World) (owner : Principal) {req : Http.Request}
    {payload : CreateKeyRequest} {scope : Scope} (hshort : ¬ maxBodyBytes < req.body.length)
    (hpayload : (Json.ofBytes? req.body).bind CreateKeyRequest.ofJson? = some payload)
    (hscope : Scope.ofText payload.scope = .ok scope) :
    (keyTokens w).Sublist (drawnBy w (site.createKey req owner)) := by
  unfold Site.createKey readMessage
  simp only [if_neg hshort, hpayload, pure_bind]
  exact ((createKey_draws hscope _ w owner _).trans (drawnBy_front _ _ _)).trans (drawnBy_respond _ _)

def Hexadecimal (t : String) : Prop := ∀ c ∈ t.toList, Text.hexValue? c ≠ none

instance (t : String) : Decidable (Hexadecimal t) :=
  List.decidableBAll (fun c => Text.hexValue? c ≠ none) t.toList

/-- Tokens in hexadecimal of which none comes twice, and that a hash tells apart. -/
structure WellDrawn (hash : String → String) (tokens : List String) : Prop where
  hex : ∀ t ∈ tokens, Hexadecimal t
  once : tokens.Nodup
  apart : ∀ t ∈ tokens, ∀ u ∈ tokens, hash ("sk_" ++ t) = hash ("sk_" ++ u) → t = u

instance (hash : String → String) (tokens : List String) : Decidable (WellDrawn hash tokens) :=
  decidable_of_iff ((∀ t ∈ tokens, Hexadecimal t) ∧ tokens.Nodup ∧
      ∀ t ∈ tokens, ∀ u ∈ tokens, hash ("sk_" ++ t) = hash ("sk_" ++ u) → t = u)
    ⟨fun ⟨hex, once, apart⟩ => ⟨hex, once, apart⟩, fun h => ⟨h.hex, h.once, h.apart⟩⟩

lemma wellDrawn_sublist (h : WellDrawn hash tokens) (hfewer : older.Sublist tokens) :
    WellDrawn hash older where
  hex := fun t ht => h.hex t (hfewer.subset ht)
  once := h.once.sublist hfewer
  apart := fun t ht u hu => h.apart t (hfewer.subset ht) u (hfewer.subset hu)

/-- Keys that are all made from certain tokens. -/
structure MadeFrom (hash : String → String) (tokens : List String) (st : ApiKeyStore) : Prop where
  named : ∀ id k, st.get? id = some k → ∃ t ∈ tokens, id = "key_" ++ t
  listed : ∀ digest id, st.byHash.get? digest = some id → ∃ t ∈ tokens, digest = hash ("sk_" ++ t)

lemma madeFrom_empty (hash : String → String) (tokens : List String) :
    MadeFrom hash tokens ApiKeyStore.empty where
  named := fun id k hk => by cases hk
  listed := fun digest id hid => by cases hid

lemma madeFrom_subset (h : MadeFrom hash older st) (hmore : older ⊆ tokens) : MadeFrom hash tokens st where
  named := fun id k hk => by
    obtain ⟨t, ht, hid⟩ := h.named id k hk
    exact ⟨t, hmore ht, hid⟩
  listed := fun digest id hid => by
    obtain ⟨t, ht, hdigest⟩ := h.listed digest id hid
    exact ⟨t, hmore ht, hdigest⟩

lemma madeFrom_revoke (h : MadeFrom hash tokens st) (id : String) (moment : Instant) :
    MadeFrom hash tokens (st.revoke id moment).2 where
  named := fun id' k' hk' => by
    rw [ApiKeyStore.get?_revoke] at hk'
    split at hk'
    · rename_i heq
      obtain ⟨k, hk, _⟩ := Option.map_eq_some_iff.1 hk'
      exact h.named id' k (heq ▸ hk)
    · exact h.named id' k' hk'
  listed := fun digest id' hid => by
    rw [byHash_revoke] at hid
    exact h.listed digest id' hid

/-- A key made from tokens that have not been drawn before finds room in the store. -/
lemma insert_of_drawn (h : MadeFrom hash older w.keys) (hdrawn : WellDrawn hash (keyTokens w ++ older))
    (owner : Principal) (name : String) (scope : Scope) :
    ∃ keys, w.keys.insert (nextKey hash w owner name scope) = .ok keys ∧
      MadeFrom hash (keyTokens w ++ older) keys := by
  have hold : older ⊆ keyTokens w ++ older := List.subset_append_right _ _
  have hnew : ∀ t ∈ keyTokens w, t ∈ keyTokens w ++ older := fun t ht => List.mem_append_left _ ht
  have hfresh : ∀ t ∈ keyTokens w, t ∉ older := fun t ht hagain =>
    (List.nodup_append.1 hdrawn.once).2.2 t ht t hagain rfl
  have hid : w.keys.get? (nextKey hash w owner name scope).id = none := by
    refine Option.eq_none_iff_forall_ne_some.2 fun k hk => ?_
    obtain ⟨t, ht, heq⟩ := h.named _ k hk
    obtain rfl : w.tokens.text (w.tokens.issued + 1) 12 = t := (String.append_right_inj _).1 heq
    exact hfresh _ (List.mem_cons_of_mem _ (List.mem_singleton_self _)) ht
  have hdigest : w.keys.byHash.get? (nextKey hash w owner name scope).tokenHash = none := by
    refine Option.eq_none_iff_forall_ne_some.2 fun id hlisted => ?_
    obtain ⟨t, ht, heq⟩ := h.listed _ id hlisted
    obtain rfl := hdrawn.apart _ (hnew _ List.mem_cons_self) t (hold ht) heq
    exact hfresh _ List.mem_cons_self ht
  have hinsert := ApiKeyStore.insert_eq_ok_iff.2 ⟨hid, hdigest, rfl⟩
  refine ⟨_, hinsert, fun id k hk => ?_, fun digest id hlisted => ?_⟩
  · rw [get?_of_insert hinsert] at hk
    split at hk
    · rename_i heq
      exact ⟨_, hnew _ (List.mem_cons_of_mem _ (List.mem_singleton_self _)), heq⟩
    · exact (madeFrom_subset h hold).named id k hk
  · rw [byHash_of_insert hinsert] at hlisted
    split at hlisted
    · rename_i heq
      exact ⟨_, hnew _ List.mem_cons_self, heq⟩
    · exact (madeFrom_subset h hold).listed digest id hlisted

end Gatehouse.Proofs
