/-!
# Lengths of time

A span is a whole number of nanoseconds and never negative. The difference of two instants is a signed
number of nanoseconds.
-/

namespace Gatehouse

abbrev Span := Nat

namespace Span

def perSecond : Nat := 1000000000

def ofSecs (n : Nat) : Span := n * perSecond

def ofMillis (n : Nat) : Span := n * 1000000

def secs (d : Span) : Nat := d / perSecond

def subsecNanos (d : Span) : Nat := d % perSecond

/-- The longest span that can be added to an instant: 2 ^ 63 - 1 milliseconds. -/
def longest : Span := 9223372036854775807 * 1000000

/-- Whole seconds, rounded up. -/
def secsUp (d : Span) : Nat := (d + (perSecond - 1)) / perSecond

end Span

end Gatehouse
