import Gatehouse.ApiKey.Store
import Mathlib.Data.List.Induction
import Mathlib.Tactic.Lemma

/-!
# The two tables of the key store

Keys are filed under their identifiers, and an index leads from the hash of a token to the identifier. The
two agree at all times: a key goes into both at once, stays in both for good, and a revocation touches
neither its identifier nor its hash. So a look-up by hash finds exactly the keys of that hash.
-/

namespace Gatehouse.Proofs

variable {st st' : ApiKeyStore} {k : ApiKey} {id hash : String}

/-- Every key is in its place, and the index leads from the hash of its token to it and nowhere else. -/
structure Indexed (st : ApiKeyStore) : Prop where
  own : ∀ id k, st.get? id = some k → k.id = id
  listed : ∀ id k, st.get? id = some k → st.byHash.get? k.tokenHash = some id
  leads : ∀ hash id, st.byHash.get? hash = some id → ∃ k, st.get? id = some k ∧ k.tokenHash = hash

lemma isRevoked_eq_false_iff : k.isRevoked = false ↔ k.revokedAt = none := by
  unfold ApiKey.isRevoked
  rw [Option.isSome_eq_false_iff, Option.isNone_iff_eq_none]

lemma get?_of_insert (h : st.insert k = .ok st') (id : String) :
    st'.get? id = if id = k.id then some k else st.get? id := by
  obtain ⟨_, _, rfl⟩ := ApiKeyStore.insert_eq_ok_iff.1 h
  exact Table.get?_insert st.keys k.id id k

lemma byHash_of_insert (h : st.insert k = .ok st') (hash : String) :
    st'.byHash.get? hash = if hash = k.tokenHash then some k.id else st.byHash.get? hash := by
  obtain ⟨_, _, rfl⟩ := ApiKeyStore.insert_eq_ok_iff.1 h
  exact Table.get?_insert st.byHash k.tokenHash hash k.id

lemma byHash_revoke (st : ApiKeyStore) (id : String) (moment : Instant) :
    (st.revoke id moment).2.byHash = st.byHash := by
  unfold ApiKeyStore.revoke
  cases st.keys.get? id with
  | none => rfl
  | some k => rfl

lemma revoke_fst (moment : Instant) (h : st.get? id = some k) :
    (st.revoke id moment).1 = true := by
  unfold ApiKeyStore.revoke
  rw [show st.keys.get? id = some k from h]

lemma indexed_empty : Indexed ApiKeyStore.empty where
  own := fun id k hk => by cases hk
  listed := fun id k hk => by cases hk
  leads := fun hash id hid => by cases hid

lemma indexed_insert (h : Indexed st) (hinsert : st.insert k = .ok st') : Indexed st' := by
  obtain ⟨hfiled, hindexed, _⟩ := ApiKeyStore.insert_eq_ok_iff.1 hinsert
  refine ⟨fun id k' hk' => ?_, fun id k' hk' => ?_, fun hash id hid => ?_⟩
  · rw [get?_of_insert hinsert] at hk'
    split at hk'
    · rename_i heq
      cases hk'
      exact heq.symm
    · exact h.own id k' hk'
  · rw [get?_of_insert hinsert] at hk'
    rw [byHash_of_insert hinsert]
    split at hk'
    · rename_i heq
      cases hk'
      rw [if_pos rfl, heq]
    -- the index did not know the new hash, so no key of before can have it
    · have hlisted := h.listed id k' hk'
      have hne : k'.tokenHash ≠ k.tokenHash := by
        intro heq
        rw [heq, hindexed] at hlisted
        cases hlisted
      rw [if_neg hne]
      exact hlisted
  · rw [byHash_of_insert hinsert] at hid
    split at hid
    · rename_i heq
      cases hid
      exact ⟨k, by rw [get?_of_insert hinsert, if_pos rfl], heq.symm⟩
    · obtain ⟨k', hk', hhash⟩ := h.leads hash id hid
      have hne : id ≠ k.id := by
        rintro rfl
        exact Option.some_ne_none k' (hk'.symm.trans hfiled)
      exact ⟨k', by rw [get?_of_insert hinsert, if_neg hne]; exact hk', hhash⟩

lemma indexed_revoke (h : Indexed st) (id : String) (moment : Instant) :
    Indexed (st.revoke id moment).2 := by
  have hback : ∀ id' k', (st.revoke id moment).2.get? id' = some k' →
      ∃ k, st.get? id' = some k ∧ k'.id = k.id ∧ k'.tokenHash = k.tokenHash := by
    intro id' k' hk'
    rw [ApiKeyStore.get?_revoke] at hk'
    split at hk'
    · rename_i heq
      obtain ⟨k, hk, rfl⟩ := Option.map_eq_some_iff.1 hk'
      exact ⟨k, heq ▸ hk, rfl, rfl⟩
    · exact ⟨k', hk', rfl, rfl⟩
  refine ⟨fun id' k' hk' => ?_, fun id' k' hk' => ?_, fun hash id' hid => ?_⟩
  · obtain ⟨k, hk, hid, _⟩ := hback id' k' hk'
    rw [hid]
    exact h.own id' k hk
  · obtain ⟨k, hk, _, hhash⟩ := hback id' k' hk'
    rw [byHash_revoke, hhash]
    exact h.listed id' k hk
  · rw [byHash_revoke] at hid
    obtain ⟨k, hk, hhash⟩ := h.leads hash id' hid
    rw [ApiKeyStore.get?_revoke]
    split
    · rename_i heq
      exact ⟨k.revoke moment, by rw [← heq, hk]; rfl, hhash⟩
    · exact ⟨k, hk, hhash⟩

lemma findByHash?_eq_some_iff (h : Indexed st) :
    st.findByHash? hash = some k ↔ st.get? k.id = some k ∧ k.tokenHash = hash := by
  unfold ApiKeyStore.findByHash?
  rw [Option.bind_eq_some_iff]
  constructor
  · rintro ⟨id, hid, hk⟩
    obtain ⟨k', hk', hhash⟩ := h.leads hash id hid
    obtain rfl : k = k' := Option.some.inj (hk.symm.trans hk')
    rw [h.own id k hk']
    exact ⟨hk', hhash⟩
  · rintro ⟨hk, rfl⟩
    exact ⟨k.id, h.listed k.id k hk, hk⟩

inductive FilingStep where
  | insert (k : ApiKey)
  | revoke (id : String) (moment : Instant)
deriving DecidableEq

/-- A key that is refused leaves the store as it is. -/
def takeFilingStep (st : ApiKeyStore) : FilingStep → ApiKeyStore
  | .insert k => (st.insert k).toOption.getD st
  | .revoke id moment => (st.revoke id moment).2

/-- What a run makes of an empty store. -/
def filingRun (steps : List FilingStep) : ApiKeyStore := steps.foldl takeFilingStep ApiKeyStore.empty

lemma filingRun_concat (steps : List FilingStep) (step : FilingStep) :
    filingRun (steps ++ [step]) = takeFilingStep (filingRun steps) step := by
  unfold filingRun
  rw [List.foldl_append]
  rfl

lemma indexed_takeFilingStep (h : Indexed st) (step : FilingStep) : Indexed (takeFilingStep st step) := by
  cases step with
  | insert k =>
    show Indexed ((st.insert k).toOption.getD st)
    cases hinsert : st.insert k with
    | error _ => exact h
    | ok st' => exact indexed_insert h hinsert
  | revoke id moment => exact indexed_revoke h id moment

lemma indexed_filingRun (steps : List FilingStep) : Indexed (filingRun steps) := by
  induction steps using List.reverseRecOn with
  | nil => exact indexed_empty
  | append_singleton steps step ih =>
    rw [filingRun_concat]
    exact indexed_takeFilingStep ih step

end Gatehouse.Proofs
