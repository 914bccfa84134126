import Gatehouse.Proofs.SessionAcceptance

/-!
# When a session is refreshed

A refresh ends a session that has outlived its hard limit, moves the end of one that is due, and otherwise
does nothing. When it does what can be said without the order in which it asks, and a second refresh at the
same instant finds nothing left to do.
-/

namespace Gatehouse.Proofs
open SessionPolicy

variable {p : SessionPolicy} {s : Session} {w : World} {now e : Instant}

/-- A session is past the hard limit of a policy that has one. -/
def Outlived (p : SessionPolicy) (s : Session) (now : Instant) : Prop :=
  p.maxAge ≠ 0 ∧ ∃ limit, s.createdAt.add? (reckoned p.maxAge) = some limit ∧ limit < now

/-- The end of a session that is refreshed: a lifetime from now, or the hard limit if that is earlier. -/
def EndsAnew (p : SessionPolicy) (s : Session) (now e : Instant) : Prop :=
  ∃ sliding, now.add? (reckoned p.ttl) = some sliding ∧
    if p.maxAge = 0 then e = sliding
    else ∃ limit, s.createdAt.add? (reckoned p.maxAge) = some limit ∧ e = sliding.earlier limit

/-- Sessions are refreshed at all, this one is close enough to its end, and it would get a later one. -/
structure Due (p : SessionPolicy) (s : Session) (now e : Instant) : Prop where
  sliding : p.ttl ≠ 0
  close : p.refreshBefore = 0 ∨ s.expiresAt.since now < reckoned p.refreshBefore
  later : s.expiresAt < e

/-- The hard limit of a session, if there is one, can be reckoned with. -/
def Limited (p : SessionPolicy) (s : Session) : Prop :=
  p.maxAge ≠ 0 → s.createdAt.add? (reckoned p.maxAge) ≠ none

lemma pastMaxAge?_of_outlived (h : Outlived p s now) : p.pastMaxAge? s now = some true := by
  obtain ⟨hmax, limit, hlimit, hlt⟩ := h
  unfold SessionPolicy.pastMaxAge? Session.exceedsMaxAge?
  rw [if_neg hmax, hlimit]
  exact congrArg some (decide_eq_true hlt)

lemma pastMaxAge?_of_not_outlived (hlimited : Limited p s) (h : ¬ Outlived p s now) :
    p.pastMaxAge? s now = some false := by
  refine pastMaxAge?_of_le fun hmax => ?_
  obtain ⟨limit, hlimit⟩ := Option.ne_none_iff_exists'.1 (hlimited hmax)
  exact ⟨limit, hlimit, instant_not_lt.1 fun hlt => h ⟨hmax, limit, hlimit, hlt⟩⟩

lemma pastMaxAge?_of_limited (hlimited : Limited p s) (now : Instant) : p.pastMaxAge? s now ≠ none := by
  by_cases hout : Outlived p s now
  · rw [pastMaxAge?_of_outlived hout]
    exact Option.some_ne_none true
  · rw [pastMaxAge?_of_not_outlived hlimited hout]
    exact Option.some_ne_none false

lemma endsAnew_of_inRange (hrange : InRange p now) (hlimited : Limited p s) :
    ∃ e, EndsAnew p s now e ∧ p.cappedExpiry? s.createdAt now = some e := by
  obtain ⟨sliding, hsliding, _⟩ := hrange
  obtain ⟨e, hexpiry⟩ :=
    cappedExpiry?_of_add? hsliding fun hmax => Option.ne_none_iff_exists'.1 (hlimited hmax)
  exact ⟨e, cappedExpiry?_eq_some hexpiry, hexpiry⟩

lemma refreshed?_of_due (hexpiry : p.cappedExpiry? s.createdAt now = some e) (h : Due p s now e) :
    p.refreshed? s now = some (some { s with expiresAt := e, lastRefreshedAt := now }) := by
  have hclose : ¬ (p.refreshBefore ≠ 0 ∧ reckoned p.refreshBefore ≤ s.remaining now) := by
    rintro ⟨hbefore, hfar⟩
    exact Int.not_lt.2 hfar (h.close.resolve_left hbefore)
  unfold SessionPolicy.refreshed?
  rw [if_neg h.sliding, if_neg hclose, hexpiry]
  exact congrArg some (if_neg (instant_not_le.2 h.later))

lemma refreshed?_of_not_due (hexpiry : p.cappedExpiry? s.createdAt now = some e) (h : ¬ Due p s now e) :
    p.refreshed? s now = some none := by
  unfold SessionPolicy.refreshed?
  split
  · rfl
  rename_i hsliding
  split
  · rfl
  rename_i hfar
  have hclose : p.refreshBefore = 0 ∨ s.expiresAt.since now < reckoned p.refreshBefore :=
    (Decidable.not_and_iff_not_or_not.1 hfar).imp Decidable.not_not.1 Int.not_le.1
  rw [hexpiry]
  exact congrArg some (if_pos (instant_not_lt.1 fun hlater => h ⟨hsliding, hclose, hlater⟩))

/-- A session that already ends where a refresh would have it end has nothing to gain from one. -/
lemma refreshed?_of_same_end (hexpiry : p.cappedExpiry? s.createdAt now = some s.expiresAt) :
    p.refreshed? s now = some none :=
  refreshed?_of_not_due hexpiry fun hdue => instant_not_lt.2 (instant_le_refl s.expiresAt) hdue.later

lemma refresh_of_outlived (h : Outlived p s w.now) :
    w.perform (p.refresh s).run = (some (.error .notFound), dropSession w s.id) := by
  rw [perform_refresh, pastMaxAge?_of_outlived h]

lemma refresh_of_not_due (hlimited : Limited p s) (hexpiry : p.cappedExpiry? s.createdAt w.now = some e)
    (h : ¬ Outlived p s w.now) (hdue : ¬ Due p s w.now e) :
    w.perform (p.refresh s).run = (some (.ok (s, false)), w) := by
  rw [perform_refresh, pastMaxAge?_of_not_outlived hlimited h]
  simp only [refreshed?_of_not_due hexpiry hdue]

lemma refresh_of_due (hrange : InRange p w.now) (hlimited : Limited p s)
    (hexpiry : p.cappedExpiry? s.createdAt w.now = some e) (h : ¬ Outlived p s w.now)
    (hdue : Due p s w.now e) :
    ∃ evictAt, w.now.add? (max (e.since w.now) 1000000000) = some evictAt ∧
      w.perform (p.refresh s).run =
        (some (.ok ({ s with expiresAt := e, lastRefreshedAt := w.now }, true)),
          fileSession w { s with expiresAt := e, lastRefreshedAt := w.now } evictAt) := by
  obtain ⟨sliding, hsliding, hkept⟩ := hrange
  obtain ⟨evictAt, hevict⟩ := Option.ne_none_iff_exists'.1 (hkept e (cappedExpiry?_le hexpiry hsliding))
  refine ⟨evictAt, hevict, ?_⟩
  rw [perform_refresh, pastMaxAge?_of_not_outlived hlimited h]
  simp only [refreshed?_of_due hexpiry hdue, storeTtl_eq, hevict]

lemma refresh_answers (hrange : InRange p w.now) (hlimited : Limited p s) :
    (w.perform (p.refresh s).run).1 ≠ none := by
  obtain ⟨e, _, hexpiry⟩ := endsAnew_of_inRange hrange hlimited
  by_cases hout : Outlived p s w.now
  · rw [refresh_of_outlived hout]
    exact Option.some_ne_none _
  by_cases hdue : Due p s w.now e
  · obtain ⟨_, _, hrun⟩ := refresh_of_due hrange hlimited hexpiry hout hdue
    rw [hrun]
    exact Option.some_ne_none _
  · rw [refresh_of_not_due hlimited hexpiry hout hdue]
    exact Option.some_ne_none _

/-- What has just been refreshed has the end that a refresh would give it. -/
lemma refresh_again (hlimited : Limited p s) (hexpiry : p.cappedExpiry? s.createdAt w.now = some e)
    (h : ¬ Outlived p s w.now) (evictAt : Instant) :
    let s' := { s with expiresAt := e, lastRefreshedAt := w.now }
    (fileSession w s' evictAt).perform (p.refresh s').run =
      (some (.ok (s', false)), fileSession w s' evictAt) :=
  refresh_of_not_due (s := { s with expiresAt := e, lastRefreshedAt := w.now })
    (w := fileSession w { s with expiresAt := e, lastRefreshedAt := w.now } evictAt) hlimited hexpiry h
    fun hdue => instant_not_lt.2 (instant_le_refl e) hdue.later

/-- At an instant from which the end of a refreshed session can be reckoned with, a refresh has three ways
to end. A session that has outlived its hard limit is not found and taken out. One that is due is written
back, and told, with nothing changed but its end and the moment of the refresh. Any other is told as it is,
and nothing is written. Whatever session is told, another refresh of it at the same instant tells it again
and changes nothing. -/
theorem refresh_exact (p : SessionPolicy) (w : World) (s : Session) (hrange : InRange p w.now)
    (hlimited : Limited p s) :
    let refreshed := w.perform (p.refresh s).run
    ∃ e, EndsAnew p s w.now e ∧
      (Outlived p s w.now → refreshed = (some (.error .notFound), dropSession w s.id)) ∧
      (¬ Outlived p s w.now → Due p s w.now e →
        ∃ evictAt, w.now.add? (max (e.since w.now) 1000000000) = some evictAt ∧
          refreshed = (some (.ok ({ s with expiresAt := e, lastRefreshedAt := w.now }, true)),
            fileSession w { s with expiresAt := e, lastRefreshedAt := w.now } evictAt)) ∧
      (¬ Outlived p s w.now → ¬ Due p s w.now e → refreshed = (some (.ok (s, false)), w)) ∧
      ∀ s' written, refreshed.1 = some (.ok (s', written)) →
        refreshed.2.perform (p.refresh s').run = (some (.ok (s', false)), refreshed.2) := by
  intro refreshed
  obtain ⟨e, hends, hexpiry⟩ := endsAnew_of_inRange hrange hlimited
  have hended := refresh_of_outlived (p := p) (s := s) (w := w)
  have hmoved := refresh_of_due hrange hlimited hexpiry
  have hleft := refresh_of_not_due hlimited hexpiry
  refine ⟨e, hends, hended, hmoved, hleft, fun s' written htold => ?_⟩
  by_cases hout : Outlived p s w.now
  · rw [show refreshed = _ from hended hout] at htold
    cases htold
  by_cases hdue : Due p s w.now e
  · obtain ⟨evictAt, _, hrun⟩ := hmoved hout hdue
    rw [show refreshed = _ from hrun] at htold ⊢
    cases htold
    exact refresh_again hlimited hexpiry hout evictAt
  · rw [show refreshed = _ from hleft hout hdue] at htold ⊢
    cases htold
    exact hleft hout hdue

/-- Sessions last an hour, eight hours altogether, and are refreshed in the last ten minutes. -/
def workdayPolicy : SessionPolicy where
  ttl := Span.ofSecs 3600
  maxAge := Span.ofSecs 28800
  refreshBefore := Span.ofSecs 600
  idBytes := 32
  csrfBytes := 32

/-- A session from the epoch that is about to end. -/
def sessionUntil (expiresAt : Instant) : Session where
  id := "ses_1"
  userId := "u"
  role := "r"
  csrfToken := "c"
  createdAt := .epoch
  lastRefreshedAt := .epoch
  expiresAt := expiresAt

def bareWorld (now : Instant) : World := { now, tokens := countedTokens }

/-- Half an hour before the hard limit a session gets that half hour, and no more. -/
theorem refresh_exact_up_to_limit :
    let w := bareWorld (atSecond 27000)
    let s := sessionUntil (atSecond 27400)
    let s' := { s with expiresAt := atSecond 28800, lastRefreshedAt := w.now }
    InRange workdayPolicy w.now ∧ Limited workdayPolicy s ∧
      w.perform (workdayPolicy.refresh s).run = (some (.ok (s', true)), fileSession w s' (atSecond 28800)) ∧
      (fileSession w s' (atSecond 28800)).perform (workdayPolicy.refresh s').run =
        (some (.ok (s', false)), fileSession w s' (atSecond 28800)) := by
  intro w s s'
  have hrange : InRange workdayPolicy w.now := inRange_of_room (by decide)
  have hlimit : s.createdAt.add? (reckoned workdayPolicy.maxAge) = some (atSecond 28800) := by decide
  have hlimited : Limited workdayPolicy s := fun _ hnone => by
    rw [hlimit] at hnone
    cases hnone
  obtain ⟨e, ⟨sliding, hsliding, hend⟩, _, hmoved, _, hagain⟩ :=
    refresh_exact workdayPolicy w s hrange hlimited
  obtain rfl : atSecond 30600 = sliding :=
    Option.some.inj ((by decide : _ = some (atSecond 30600)).symm.trans hsliding)
  rw [if_neg (by decide), hlimit] at hend
  obtain ⟨limit, hsame, rfl⟩ := hend
  obtain rfl : atSecond 28800 = limit := Option.some.inj hsame
  have hout : ¬ Outlived workdayPolicy s w.now := by
    rintro ⟨_, limit, hlimit', hlt⟩
    obtain rfl := Option.some.inj (hlimit.symm.trans hlimit')
    exact absurd hlt (by decide)
  obtain ⟨evictAt, hevict, hrun⟩ := hmoved hout ⟨by decide, Or.inr (by decide), by decide⟩
  obtain rfl : atSecond 28800 = evictAt :=
    Option.some.inj ((by decide : _ = some (atSecond 28800)).symm.trans hevict)
  rw [hrun] at hagain
  exact ⟨hrange, hlimited, hrun, hagain s' true rfl⟩

/-- Sessions last two hundred years, and are to be refreshed at any time: however much is left is less than
this. -/
def agesPolicy : SessionPolicy where
  ttl := Span.ofSecs 6307200000
  maxAge := 0
  refreshBefore := Span.ofSecs 18446744073709551615
  idBytes := 32
  csrfBytes := 32

/-- The length of time before its end in which a session is refreshed is not the one of the policy if that
is too long to be reckoned with. More than a hundred years before its end a session is left alone. -/
theorem ages_before_end_not_refreshed :
    ¬ ∀ (p : SessionPolicy) (w : World) (s : Session) (e : Instant), p.ttl ≠ 0 → p.maxAge = 0 →
        w.now.add? (p.ttl : Int) = some e → s.expiresAt.since w.now < (p.refreshBefore : Int) →
        s.expiresAt < e →
        (w.perform (p.refresh s).run).1 =
          some (.ok ({ s with expiresAt := e, lastRefreshedAt := w.now }, true)) := by
  intro h
  let e : Instant := ⟨6307200000000000000, false, by decide, by decide⟩
  let s := sessionUntil (atSecond 4000000000)
  have hmoved := h agesPolicy (bareWorld .epoch) s e (by decide) rfl (by decide) (by decide) (by decide)
  have hnotdue : ¬ Due agesPolicy s .epoch e := fun hdue => absurd hdue.close (by decide)
  rw [refresh_of_not_due (fun hmax => absurd rfl hmax) (by decide) (fun hout => hout.1 rfl) hnotdue] at hmoved
  exact Bool.false_ne_true (congrArg Prod.snd (Except.ok.inj (Option.some.inj hmoved)))

end Gatehouse.Proofs
