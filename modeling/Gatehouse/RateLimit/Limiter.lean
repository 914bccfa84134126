import Gatehouse.RateLimit.Window
import Gatehouse.StoreFault
import Gatehouse.Table
import Gatehouse.Time.Instant

/-!
# Limiting attempts

Every key has a counter for its current window. An attempt counts whether or not it is allowed, and opens
a new window when the last one has ended. Counters of ended windows are swept away on the occasion of any
attempt, at most once per window.
-/

namespace Gatehouse

structure Decision where
  allowed : Bool
  /-- What is left of the window. -/
  retryAfter : Span
deriving DecidableEq, Repr

structure Counter where
  /-- The attempts of the window. They are no more than have been made on the key (`count_le_attempts`), so
  that 64 bits would hold their number: 2 ^ 64 attempts take more than five hundred years at a thousand
  million a second. -/
  count : Nat
  resetsAt : Instant
deriving DecidableEq

/-- The counter after one more attempt, given the one before and the end of a window that opens now. -/
def Counter.charge (before : Option Counter) (now ends : Instant) : Counter :=
  match before with
  | none => ⟨1, ends⟩
  | some c => if c.resetsAt ≤ now then ⟨1, ends⟩ else ⟨c.count + 1, c.resetsAt⟩

structure Limiter where
  window : FixedWindow
  counters : Table String Counter
  nextSweep : Instant
deriving DecidableEq

namespace Limiter

/-- A limiter that begins its work at an instant. -/
def start (window : FixedWindow) (now : Instant) : Limiter := ⟨window.normalized, Table.empty, now⟩

def size (l : Limiter) : Nat := l.counters.size

/-- The counter of a key. -/
def counter? (l : Limiter) (key : String) : Option Counter := l.counters.get? (l.window.key key)

/-- Removes the counters whose windows have ended. -/
def sweep (l : Limiter) (now : Instant) : Limiter :=
  { l with counters := l.counters.filter fun _ c => now < c.resetsAt }

/-- How many counters a sweep removes, and what it leaves. -/
def purge (l : Limiter) (now : Instant) : Nat × Limiter :=
  let swept := l.sweep now
  (l.size - swept.size, swept)

def verdict (l : Limiter) (c : Counter) (now : Instant) : Decision :=
  ⟨c.count ≤ l.window.limit.toNat, (c.resetsAt.since now).toNat⟩

/-- Counts an attempt. There is no answer when the end of the window lies beyond the last instant; a sweep
that was due has happened nevertheless. -/
def attempt (l : Limiter) (now : Instant) (key : String) :
    Option (Except StoreFault Decision) × Limiter :=
  if Span.longest < l.window.window then (some (.error .spanOutOfRange), l)
  else
    let due : Bool := l.nextSweep ≤ now
    let l := if due then l.sweep now else l
    match now.add? l.window.window with
    | none => (none, l)
    | some ends =>
      let c := Counter.charge (l.counter? key) now ends
      (some (.ok (l.verdict c now)),
        { l with
          counters := l.counters.insert (l.window.key key) c
          nextSweep := if due then ends else l.nextSweep })

theorem counter?_sweep (l : Limiter) (now : Instant) (key : String) :
    (l.sweep now).counter? key = (l.counter? key).filter fun c => now < c.resetsAt :=
  Table.get?_filter l.counters _ _

end Limiter

end Gatehouse
