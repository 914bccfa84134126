import Gatehouse.ApiKey.Store
import Gatehouse.Crypto.Bcrypt
import Gatehouse.Procedure
import Gatehouse.Session.Store
import Gatehouse.Token

/-!
# The world in memory

A backend that keeps everything in memory: the clock, the sessions, the keys, the users, the counters of the
limiter, and the tokens still to come. Without a limiter every attempt is allowed. Every call is answered at
once, and nothing but a call changes the world; the clock stands still while procedures run.
-/

namespace Gatehouse

structure World where
  now : Instant
  tokens : TokenSource
  sessions : SessionStore := Table.empty
  keys : ApiKeyStore := ApiKeyStore.empty
  users : UserStore := Table.empty
  limiter : Option Limiter := none
  /-- Whether a password has a hash. -/
  verify : String → String → Bool := Crypto.bcryptMatches

namespace World

def saveSession (w : World) (s : Session) (ttl : Span) : Option (Except StoreFault Unit) × World :=
  match w.sessions.save w.now s ttl with
  | none => (none, w)
  | some (.error e) => (some (.error e), w)
  | some (.ok sessions) => (some (.ok ()), { w with sessions })

def loadSession (w : World) (id : String) : Option Session × World :=
  let (found, sessions) := w.sessions.load w.now id
  (found, { w with sessions })

def attempt (w : World) (key : String) : Option (Except StoreFault Decision) × World :=
  match w.limiter with
  | none => (some (.ok ⟨true, 0⟩), w)
  | some l =>
    let (decision, l) := l.attempt w.now key
    (decision, { w with limiter := some l })

def insertKey (w : World) (k : ApiKey) : Except StoreFault Unit × World :=
  match w.keys.insert k with
  | .error e => (.error e, w)
  | .ok keys => (.ok (), { w with keys })

def answer : Backend World
  | .now, w => (some w.now, w)
  | .generate bytes, w => (some (w.tokens.next bytes).1, { w with tokens := (w.tokens.next bytes).2 })
  | .saveSession s ttl, w => w.saveSession s ttl
  | .loadSession id, w => (some (.ok (w.loadSession id).1), (w.loadSession id).2)
  | .deleteSession id, w => (some (.ok ()), { w with sessions := w.sessions.delete id })
  | .attempt key, w => w.attempt key
  | .findUser email, w => (some (.ok (w.users.findByEmail? email)), w)
  | .verifyPassword password hash, w => (some (.ok (w.verify password hash)), w)
  | .insertKey k, w => (some (w.insertKey k).1, (w.insertKey k).2)
  | .listKeys userId, w => (some (.ok (w.keys.listByUser userId)), w)
  | .getKey id, w => (some (.ok (w.keys.get? id)), w)
  | .findKey hash, w => (some (.ok (w.keys.findByHash? hash)), w)
  | .revokeKey id moment, w =>
    (some (.ok (w.keys.revoke id moment).1), { w with keys := (w.keys.revoke id moment).2 })

/-- Runs a procedure in the world. -/
def perform (w : World) (p : Procedure α) : Option α × World := p.run answer w

def addUser (w : World) (u : User) : World := { w with users := w.users.add u }

def purgeSessions (w : World) : Nat × World :=
  let (removed, sessions) := w.sessions.purge w.now
  (removed, { w with sessions })

def purgeLimiter (w : World) : Nat × World :=
  match w.limiter with
  | none => (0, w)
  | some l =>
    let (removed, l) := l.purge w.now
    (removed, { w with limiter := some l })

/-- Moves the clock by a signed number of nanoseconds, if it stays within the range of instants. -/
def advance (w : World) (nanos : Int) : Option World := (w.now.add? nanos).map fun now => { w with now }

end World

end Gatehouse
