import Gatehouse.Proofs.InstantOrder
import Gatehouse.Proofs.KeyStore
import Mathlib.Data.List.Nodup

/-!
# The listing of a user's keys

A listing is the keys that a store has on file for one user, each of them once, in an order that leaves
nothing open. So it is settled by what the store answers about single keys of that user, and it matters
neither how the store keeps its keys nor whom else it keeps keys for.
-/

namespace Gatehouse.Proofs
open ApiKeyStore

variable {st st' : ApiKeyStore} {userId : String} {a b c k : ApiKey}

lemma listedBefore_iff :
    listedBefore a b = true ↔ b.createdAt < a.createdAt ∨ a.createdAt = b.createdAt ∧ b.id ≤ a.id := by
  unfold listedBefore
  rw [Bool.or_eq_true, Bool.and_eq_true, beq_iff_eq, decide_eq_true_eq, decide_eq_true_eq]

lemma listedBefore_total (a b : ApiKey) : (listedBefore a b || listedBefore b a) = true := by
  rw [Bool.or_eq_true, listedBefore_iff, listedBefore_iff]
  rcases Int.lt_trichotomy a.createdAt.position b.createdAt.position with hlt | heq | hlt
  · exact Or.inr (Or.inl hlt)
  · have hcreated := instant_eq_of_position heq
    rcases String.le_total a.id b.id with hle | hle
    · exact Or.inr (Or.inr ⟨hcreated.symm, hle⟩)
    · exact Or.inl (Or.inr ⟨hcreated, hle⟩)
  · exact Or.inl (Or.inl hlt)

lemma listedBefore_trans (a b c : ApiKey) (hab : listedBefore a b = true) (hbc : listedBefore b c = true) :
    listedBefore a c = true := by
  rw [listedBefore_iff] at hab hbc ⊢
  rcases hab with hab | ⟨hab, hids⟩
  · rcases hbc with hbc | ⟨hbc, _⟩
    · exact Or.inl (Int.lt_trans hbc hab)
    · exact Or.inl (hbc ▸ hab)
  · rcases hbc with hbc | ⟨hbc, hids'⟩
    · exact Or.inl (hab.symm ▸ hbc)
    · exact Or.inr ⟨hab.trans hbc, String.le_trans hids' hids⟩

lemma id_eq_of_listedBefore (hab : listedBefore a b = true) (hba : listedBefore b a = true) :
    a.id = b.id := by
  rw [listedBefore_iff] at hab hba
  rcases hab with hab | ⟨hcreated, hids⟩
  · rcases hba with hba | ⟨hcreated, _⟩
    · exact absurd (Int.lt_trans hab hba) (Int.lt_irrefl _)
    · rw [hcreated] at hab
      exact absurd hab (Int.lt_irrefl _)
  · rcases hba with hba | ⟨_, hids'⟩
    · rw [hcreated] at hba
      exact absurd hba (Int.lt_irrefl _)
    · exact String.le_antisymm hids' hids

/-- The key under an identifier, if it is a user's own. -/
def ownKey? (st : ApiKeyStore) (userId id : String) : Option ApiKey :=
  (st.get? id).filter fun k => k.userId = userId

lemma ownKey?_eq_some_iff {id : String} :
    ownKey? st userId id = some k ↔ st.get? id = some k ∧ k.userId = userId := by
  rw [ownKey?, Option.filter_eq_some_iff, decide_eq_true_eq]

lemma mem_listByUser (h : Indexed st) : k ∈ st.listByUser userId ↔ ownKey? st userId k.id = some k := by
  unfold listByUser Table.values
  rw [List.mem_mergeSort, List.mem_filter, List.mem_map, ownKey?_eq_some_iff, decide_eq_true_eq]
  refine and_congr_left fun _ => ⟨?_, fun hk => ⟨(k.id, k), Table.get?_eq_some_iff.1 hk, rfl⟩⟩
  rintro ⟨⟨id, k'⟩, hentry, rfl⟩
  have hk := Table.get?_eq_some_iff.2 hentry
  rw [h.own id k' hk]
  exact hk

lemma listByUser_nodup (h : Indexed st) (userId : String) : (st.listByUser userId).Nodup := by
  unfold listByUser Table.values
  refine (List.mergeSort_perm _ _).nodup_iff.2 (List.Nodup.filter _ ?_)
  refine List.Nodup.of_map ApiKey.id ?_
  have hids : (st.keys.entries.map Prod.snd).map ApiKey.id = st.keys.entries.map Prod.fst := by
    rw [List.map_map]
    refine List.map_congr_left ?_
    rintro ⟨id, k⟩ hentry
    exact h.own id k (Table.get?_eq_some_iff.2 hentry)
  rw [hids]
  exact st.keys.nodup

lemma listByUser_sorted (st : ApiKeyStore) (userId : String) :
    (st.listByUser userId).Pairwise fun a b => listedBefore a b = true :=
  List.pairwise_mergeSort listedBefore_trans listedBefore_total _

/-- Two stores that agree on every single key of a user list the user's keys alike. -/
lemma listByUser_eq (h : Indexed st) (h' : Indexed st')
    (hsame : ∀ id, ownKey? st userId id = ownKey? st' userId id) :
    st.listByUser userId = st'.listByUser userId := by
  have hmem : ∀ k, k ∈ st.listByUser userId ↔ k ∈ st'.listByUser userId := by
    intro k
    rw [mem_listByUser h, mem_listByUser h', hsame]
  refine List.Perm.eq_of_pairwise (fun a b ha hb hab hba => ?_) (listByUser_sorted st userId)
    (listByUser_sorted st' userId)
    ((List.perm_ext_iff_of_nodup (listByUser_nodup h userId) (listByUser_nodup h' userId)).2 hmem)
  have hids := id_eq_of_listedBefore hab hba
  rw [mem_listByUser h, hids, hsame] at ha
  rw [mem_listByUser h'] at hb
  exact Option.some.inj (ha.symm.trans hb)

end Gatehouse.Proofs
