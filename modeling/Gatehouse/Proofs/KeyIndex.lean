import Gatehouse.Proofs.InstantOrder
import Gatehouse.Proofs.KeyStore
import Gatehouse.World
import Mathlib.Data.List.Nodup

/-!
# The index is the inverse of the keys

Read backwards, the entries of the index are the identifiers and hashes of the keys on file, pair by pair.
So the two tables have the same size, a hash leads to one key or to none, and a key can come in exactly if
it brings along both an identifier and a hash that nobody has. One that cannot come in leaves neither table
touched, and a revocation writes one field of one key.
-/

namespace Gatehouse.Proofs
open ApiKeyStore

variable {st : ApiKeyStore} {k k' : ApiKey} {id hash : String} {w : World}

def OnFile (st : ApiKeyStore) (k : ApiKey) : Prop := ∃ id, st.get? id = some k

/-- Somebody has the identifier or the hash that a key comes with. -/
def Taken (st : ApiKeyStore) (k : ApiKey) : Prop :=
  ∃ k', OnFile st k' ∧ (k'.id = k.id ∨ k'.tokenHash = k.tokenHash)

lemma byHash_eq_some_iff (h : Indexed st) :
    st.byHash.get? hash = some id ↔ ∃ k, st.get? id = some k ∧ k.tokenHash = hash := by
  constructor
  · exact h.leads hash id
  · rintro ⟨k, hk, rfl⟩
    exact h.listed id k hk

lemma onFile_iff (h : Indexed st) : OnFile st k ↔ st.get? k.id = some k := by
  constructor
  · rintro ⟨id, hk⟩
    rw [h.own id k hk]
    exact hk
  · exact fun hk => ⟨k.id, hk⟩

lemma eq_of_tokenHash_eq (h : Indexed st) (hk : OnFile st k) (hk' : OnFile st k')
    (hhash : k.tokenHash = k'.tokenHash) : k = k' := by
  obtain ⟨id, hid⟩ := hk
  obtain ⟨id', hid'⟩ := hk'
  have hlisted := h.listed id k hid
  rw [hhash, h.listed id' k' hid', Option.some.injEq] at hlisted
  rw [hlisted, hid, Option.some.injEq] at hid'
  exact hid'

/-- Neither table has an entry that the other does not have the other way round. -/
lemma byHash_perm (h : Indexed st) :
    (st.keys.entries.map fun e => (e.2.tokenHash, e.1)).Perm st.byHash.entries := by
  have hkeys : (st.keys.entries.map fun e => (e.2.tokenHash, e.1)).Nodup := by
    refine List.Nodup.of_map Prod.snd ?_
    rw [List.map_map]
    exact st.keys.nodup
  have hindex : st.byHash.entries.Nodup := List.Nodup.of_map Prod.fst st.byHash.nodup
  refine (List.perm_ext_iff_of_nodup hkeys hindex).2 fun e => ?_
  obtain ⟨hash, id⟩ := e
  rw [← Table.get?_eq_some_iff, byHash_eq_some_iff h, List.mem_map]
  constructor
  · rintro ⟨e, he, heq⟩
    cases heq
    exact ⟨e.2, Table.get?_eq_some_iff.2 he, rfl⟩
  · rintro ⟨k, hk, rfl⟩
    exact ⟨(id, k), Table.get?_eq_some_iff.1 hk, rfl⟩

lemma size_byHash (h : Indexed st) : st.byHash.size = st.keys.size := by
  have hlength := (byHash_perm h).length_eq
  rw [List.length_map] at hlength
  exact hlength.symm

lemma taken_iff (h : Indexed st) : Taken st k ↔ st.get? k.id ≠ none ∨ st.byHash.get? k.tokenHash ≠ none := by
  constructor
  · rintro ⟨k', hk', hid | hhash⟩
    · rw [onFile_iff h, hid] at hk'
      exact Or.inl (Option.ne_none_iff_exists'.2 ⟨k', hk'⟩)
    · rw [onFile_iff h] at hk'
      refine Or.inr (Option.ne_none_iff_exists'.2 ⟨k'.id, ?_⟩)
      rw [← hhash]
      exact h.listed k'.id k' hk'
  · rintro (hid | hhash)
    · obtain ⟨k', hk'⟩ := Option.ne_none_iff_exists'.1 hid
      exact ⟨k', ⟨k.id, hk'⟩, Or.inl (h.own k.id k' hk')⟩
    · obtain ⟨id, hid⟩ := Option.ne_none_iff_exists'.1 hhash
      obtain ⟨k', hk', hsame⟩ := h.leads k.tokenHash id hid
      exact ⟨k', ⟨id, hk'⟩, Or.inr hsame⟩

/-- Of two faults the identifier is the one that is named. -/
lemma insertKey_of_taken (h : Indexed w.keys) (htaken : Taken w.keys k) :
    w.insertKey k = (.error (if w.keys.get? k.id = none then .tokenHashTaken else .keyExists k.id), w) := by
  unfold World.insertKey ApiKeyStore.insert Table.contains
  by_cases hid : w.keys.keys.get? k.id = none
  · have hhash := ((taken_iff h).1 htaken).resolve_left fun hne => hne hid
    have hsome : (w.keys.byHash.get? k.tokenHash).isSome = true := Option.isSome_iff_ne_none.2 hhash
    rw [hid, hsome, if_pos (show w.keys.get? k.id = none from hid)]
    rfl
  · have hsome : (w.keys.keys.get? k.id).isSome = true := Option.isSome_iff_ne_none.2 hid
    rw [hsome, if_neg (show ¬ w.keys.get? k.id = none from hid)]
    rfl

lemma insertKey_of_free (h : Indexed w.keys) (hfree : ¬ Taken w.keys k) :
    ∃ keys, w.insertKey k = (.ok (), { w with keys }) ∧
      (∀ id, keys.get? id = if id = k.id then some k else w.keys.get? id) ∧
      ∀ hash, keys.byHash.get? hash = if hash = k.tokenHash then some k.id else w.keys.byHash.get? hash := by
  rw [taken_iff h, not_or, not_not, not_not] at hfree
  have hok := insert_eq_ok_iff.2 ⟨hfree.1, hfree.2, rfl⟩
  refine ⟨_, ?_, get?_of_insert hok, byHash_of_insert hok⟩
  unfold World.insertKey
  rw [hok]

/-- A revocation that finds its key sets the instant, if there is none yet, and nothing else. -/
lemma revoke_eq (st : ApiKeyStore) (id : String) (moment : Instant) :
    (st.revoke id moment).1 = (st.get? id).isSome ∧ (st.revoke id moment).2.byHash = st.byHash ∧
      ∀ id', (st.revoke id moment).2.get? id' =
        if id' = id then (st.get? id).map fun k => { k with revokedAt := k.revokedAt.or (some moment) }
        else st.get? id' := by
  refine ⟨?_, byHash_revoke st id moment, fun id' => ?_⟩
  · cases hk : st.get? id with
    | none =>
      unfold ApiKeyStore.revoke
      rw [show st.keys.get? id = none from hk]
      rfl
    | some k => exact revoke_fst moment hk
  · have hrevoke : ∀ k : ApiKey, k.revoke moment = { k with revokedAt := k.revokedAt.or (some moment) } := by
      intro k
      unfold ApiKey.revoke
      cases k.revokedAt <;> rfl
    rw [get?_revoke, funext hrevoke]

/-- After every run of insertions and revocations on an empty store, keys are filed under their own
identifiers, and the index leads from a hash to an identifier exactly if a key with that hash is filed under
it. So the two tables have the same size, and a look-up by hash finds the only key with the hash. An
insertion is refused exactly if the identifier or the hash is taken, and then nothing changes. A revocation
sets the instant of the key that it names, unless there is one, and changes nothing else. -/
theorem index_inverts_keys (steps : List FilingStep) :
    let st := filingRun steps
    (∀ id k, st.get? id = some k → k.id = id) ∧
    (∀ hash id, st.byHash.get? hash = some id ↔ ∃ k, st.get? id = some k ∧ k.tokenHash = hash) ∧
    st.byHash.size = st.keys.size ∧
    (∀ hash k, st.findByHash? hash = some k ↔ OnFile st k ∧ k.tokenHash = hash) ∧
    (∀ k k', OnFile st k → OnFile st k' → k.tokenHash = k'.tokenHash → k = k') ∧
    (∀ (w : World) k, w.keys = st →
      (Taken st k → ∃ fault, w.insertKey k = (.error fault, w)) ∧
      (¬ Taken st k → ∃ keys, w.insertKey k = (.ok (), { w with keys }) ∧
        (∀ id, keys.get? id = if id = k.id then some k else st.get? id) ∧
        ∀ hash, keys.byHash.get? hash = if hash = k.tokenHash then some k.id else st.byHash.get? hash)) ∧
    ∀ id moment,
      (st.revoke id moment).1 = (st.get? id).isSome ∧ (st.revoke id moment).2.byHash = st.byHash ∧
      ∀ id', (st.revoke id moment).2.get? id' =
        if id' = id then (st.get? id).map fun k => { k with revokedAt := k.revokedAt.or (some moment) }
        else st.get? id' := by
  intro st
  have hindexed : Indexed st := indexed_filingRun steps
  refine ⟨hindexed.own, fun hash id => byHash_eq_some_iff hindexed, size_byHash hindexed, fun hash k => ?_,
    fun k k' => eq_of_tokenHash_eq hindexed, fun w k hw => ?_, revoke_eq st⟩
  · rw [findByHash?_eq_some_iff hindexed, onFile_iff hindexed]
  · rw [← hw] at hindexed ⊢
    exact ⟨fun htaken => ⟨_, insertKey_of_taken hindexed htaken⟩, insertKey_of_free hindexed⟩

def hashedKey (id hash : String) : ApiKey := ⟨id, "u", "r", id, .readWrite, hash, "sk_", .epoch, none⟩

/-- The second key has the hash of the first, and the third its identifier. -/
def clashingSteps : List FilingStep :=
  [.insert (hashedKey "key_a" "h"), .insert (hashedKey "key_b" "h"), .insert (hashedKey "key_a" "g"),
    .revoke "key_a" (atSecond 20)]

theorem index_inverts_keys_clashing :
    let st := filingRun clashingSteps
    let revoked := { hashedKey "key_a" "h" with revokedAt := some (atSecond 20) }
    let w : World := { now := .epoch, tokens := ⟨fun _ _ => "", 0⟩, keys := st }
    st.get? "key_a" = some revoked ∧ revoked.id = "key_a" ∧ st.byHash.get? "h" = some "key_a" ∧
      st.byHash.size = st.keys.size ∧ st.findByHash? "h" = some revoked ∧
      (∃ fault, w.insertKey (hashedKey "key_b" "h") = (.error fault, w)) ∧
      (∃ keys, w.insertKey (hashedKey "key_b" "g") = (.ok (), { w with keys })) ∧
      (st.revoke "key_a" (atSecond 30)).2.get? "key_a" = some revoked := by
  intro st revoked w
  have hfiled : st.get? "key_a" = some revoked := by decide
  obtain ⟨hown, hinverse, hsize, hfind, _, hinsert, hrevoke⟩ := index_inverts_keys clashingSteps
  obtain ⟨htaken, _⟩ := hinsert w (hashedKey "key_b" "h") rfl
  obtain ⟨_, hfree⟩ := hinsert w (hashedKey "key_b" "g") rfl
  have hfresh : ¬ Taken st (hashedKey "key_b" "g") := by
    rw [taken_iff (indexed_filingRun clashingSteps)]
    decide
  obtain ⟨keys, hkeys, _⟩ := hfree hfresh
  refine ⟨hfiled, hown _ _ hfiled, (hinverse _ _).2 ⟨revoked, hfiled, rfl⟩, hsize,
    (hfind _ _).2 ⟨⟨_, hfiled⟩, rfl⟩, htaken ⟨revoked, ⟨_, hfiled⟩, Or.inr rfl⟩, ⟨keys, hkeys⟩, ?_⟩
  rw [(hrevoke "key_a" (atSecond 30)).2.2, if_pos rfl, hfiled]
  rfl

end Gatehouse.Proofs
