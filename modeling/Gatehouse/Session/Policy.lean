import Gatehouse.Session.Basic
import Gatehouse.Settings.Basic

/-!
# How long sessions live

A session lives for a time after its last refresh, and altogether no longer than a hard limit from its
creation on. A limit of zero is none. A refresh is due when less than a certain time is left; when that is
zero, always.
-/

namespace Gatehouse

structure SessionPolicy where
  ttl : Span
  maxAge : Span
  refreshBefore : Span
  idBytes : Nat
  csrfBytes : Nat
deriving DecidableEq

namespace SessionPolicy

def ofSettings (s : SessionSettings) : SessionPolicy where
  ttl := Span.ofSecs s.ttlSecs.toNat
  maxAge := Span.ofSecs s.maxAgeSecs.toNat
  refreshBefore := Span.ofSecs s.refreshBeforeSecs.toNat
  idBytes := s.idBytes.toNat
  csrfBytes := s.csrfBytes.toNat

instance : Inhabited SessionPolicy := ⟨ofSettings {}⟩

/-- Identifiers and tokens have at least this many random bytes. -/
def minRandomBytes : Nat := 32

/-- A span that is too long to be reckoned with stands for a hundred years of 365 days. -/
def reckoned (d : Span) : Int := if d ≤ Span.longest then d else Span.ofSecs (36500 * 86400)

/-- Whether a session has passed the hard limit. -/
def pastMaxAge? (p : SessionPolicy) (s : Session) (now : Instant) : Option Bool :=
  if p.maxAge = 0 then some false else s.exceedsMaxAge? now (reckoned p.maxAge)

/-- The end of a session that is refreshed now. -/
def cappedExpiry? (p : SessionPolicy) (createdAt now : Instant) : Option Instant := do
  let sliding ← now.add? (reckoned p.ttl)
  if p.maxAge = 0 then return sliding
  return sliding.earlier (← createdAt.add? (reckoned p.maxAge))

/-- How long a store is to keep a session: until it ends, and at least a second. -/
def storeTtl (s : Session) (now : Instant) : Span := max (s.remaining now).toNat (Span.ofSecs 1)

end SessionPolicy

end Gatehouse
