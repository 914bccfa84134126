import Gatehouse.Session.Basic
import Gatehouse.StoreFault
import Gatehouse.Table

/-!
# The session store

Sessions are kept in memory under their identifiers, each until an instant of its own. An entry past that
instant is never found; it is removed when it is asked for, or when the store is purged.
-/

namespace Gatehouse

structure StoredSession where
  session : Session
  evictAt : Instant
deriving DecidableEq

abbrev SessionStore := Table String StoredSession

namespace SessionStore

/-- Keeps a session for a time. There is no answer when its end lies beyond the last instant. -/
def save (st : SessionStore) (now : Instant) (s : Session) (ttl : Span) :
    Option (Except StoreFault SessionStore) :=
  if Span.longest < ttl then some (.error .spanOutOfRange)
  else (now.add? ttl).map fun evictAt => .ok (st.insert s.id ⟨s, evictAt⟩)

/-- Looks a session up. An entry whose time is over goes. -/
def load (st : SessionStore) (now : Instant) (id : String) : Option Session × SessionStore :=
  match st.get? id with
  | none => (none, st)
  | some e => if now < e.evictAt then (some e.session, st) else (none, st.erase id)

def delete (st : SessionStore) (id : String) : SessionStore := st.erase id

def purgeExpired (st : SessionStore) (now : Instant) : SessionStore :=
  st.filter fun _ e => now < e.evictAt

/-- How many entries a purge removes, and what it leaves. -/
def purge (st : SessionStore) (now : Instant) : Nat × SessionStore :=
  (st.size - (st.purgeExpired now).size, st.purgeExpired now)

theorem save_eq_ok_iff {st st' : SessionStore} {now : Instant} {s : Session} {ttl : Span} :
    st.save now s ttl = some (.ok st') ↔
      ttl ≤ Span.longest ∧ ∃ evictAt, now.add? ttl = some evictAt ∧ st' = st.insert s.id ⟨s, evictAt⟩ := by
  unfold save
  by_cases h : Span.longest < ttl
  · simp [h, Nat.not_le.2 h]
  · cases now.add? ttl <;> simp [h, Nat.not_lt.1 h, eq_comm]

theorem get?_purgeExpired (st : SessionStore) (now : Instant) (id : String) :
    (st.purgeExpired now).get? id = (st.get? id).filter fun e => now < e.evictAt :=
  Table.get?_filter st _ id

end SessionStore

end Gatehouse
