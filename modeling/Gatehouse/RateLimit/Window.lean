import Gatehouse.Settings.Basic
import Gatehouse.Text.Blank
import Gatehouse.Time.Span

/-!
# Windows

How many attempts are allowed in how long a time. A zero is taken for a value that was never chosen.
-/

namespace Gatehouse

structure FixedWindow where
  limit : UInt64 := 5
  window : Span := Span.ofSecs 60
  keyPrefix : String := "sniply:ratelimit:"
deriving DecidableEq

namespace FixedWindow

def normalized (w : FixedWindow) : FixedWindow :=
  let base : FixedWindow := {}
  { limit := if w.limit = 0 then base.limit else w.limit
    window := if w.window = 0 then base.window else w.window
    keyPrefix := if Text.isBlankText w.keyPrefix then base.keyPrefix else w.keyPrefix }

def make (limit : UInt64) (window : Span) : FixedWindow :=
  ({ limit, window } : FixedWindow).normalized

def ofSettings (s : RateLimitSettings) : FixedWindow :=
  ({ limit := s.limit, window := Span.ofSecs s.windowSecs.toNat, keyPrefix := s.keyPrefix } :
    FixedWindow).normalized

def key (w : FixedWindow) (key : String) : String := w.keyPrefix ++ key

end FixedWindow

end Gatehouse
