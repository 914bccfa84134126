import Gatehouse.ApiKey.Basic
import Gatehouse.StoreFault
import Gatehouse.Table

/-!
# The API key store

Keys are filed under their identifiers, and an index leads from the hash of a token to the identifier. A key
goes into both or into neither, and is never removed.
-/

namespace Gatehouse

structure ApiKeyStore where
  keys : Table String ApiKey
  byHash : Table String String
deriving DecidableEq

namespace ApiKeyStore

def empty : ApiKeyStore := ⟨Table.empty, Table.empty⟩

instance : Inhabited ApiKeyStore := ⟨empty⟩

def insert (st : ApiKeyStore) (k : ApiKey) : Except StoreFault ApiKeyStore :=
  if st.keys.contains k.id then .error (.keyExists k.id)
  else if st.byHash.contains k.tokenHash then .error .tokenHashTaken
  else .ok ⟨st.keys.insert k.id k, st.byHash.insert k.tokenHash k.id⟩

def get? (st : ApiKeyStore) (id : String) : Option ApiKey := st.keys.get? id

def findByHash? (st : ApiKeyStore) (hash : String) : Option ApiKey :=
  (st.byHash.get? hash).bind st.keys.get?

/-- The order of a listing: later keys first, and of keys of one instant the greater identifier first. -/
def listedBefore (a b : ApiKey) : Bool :=
  b.createdAt < a.createdAt || (a.createdAt == b.createdAt && b.id ≤ a.id)

/-- All keys of a user, revoked ones included. -/
def listByUser (st : ApiKeyStore) (userId : String) : List ApiKey :=
  (st.keys.values.filter fun k => k.userId = userId).mergeSort listedBefore

/-- Marks a key as revoked. Says whether there is such a key. -/
def revoke (st : ApiKeyStore) (id : String) (moment : Instant) : Bool × ApiKeyStore :=
  match st.keys.get? id with
  | none => (false, st)
  | some k => (true, { st with keys := st.keys.insert id (k.revoke moment) })

theorem insert_eq_ok_iff {st st' : ApiKeyStore} {k : ApiKey} :
    st.insert k = .ok st' ↔
      st.keys.get? k.id = none ∧ st.byHash.get? k.tokenHash = none ∧
        ⟨st.keys.insert k.id k, st.byHash.insert k.tokenHash k.id⟩ = st' := by
  unfold insert Table.contains
  by_cases filed : st.keys.get? k.id = none
  · by_cases indexed : st.byHash.get? k.tokenHash = none
    · simp [filed, indexed]
    · simp [filed, Option.isSome_iff_ne_none, indexed]
  · simp [Option.isSome_iff_ne_none, filed]

theorem get?_revoke (st : ApiKeyStore) (id id' : String) (moment : Instant) :
    (st.revoke id moment).2.get? id' =
      if id' = id then (st.get? id).map fun k => k.revoke moment else st.get? id' := by
  unfold revoke get?
  cases h : st.keys.get? id with
  | none =>
    by_cases same : id' = id
    · simp [same, h]
    · simp [same]
  | some k => by_cases same : id' = id <;> simp [Table.get?_insert, same]

end ApiKeyStore

end Gatehouse
