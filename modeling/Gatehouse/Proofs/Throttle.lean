import Gatehouse.Proofs.KeyManagement
import Gatehouse.Proofs.SiteRun
import Gatehouse.Proofs.WindowCounter

/-!
# How often a password can be tried

No request gets to the look-up of a user unless the limiter has granted an attempt on the email address, and
one on the address of the client. Of the attempts on a key within the length of a window at most twice the
limit are granted: those of the window that was open at the beginning, and those of the one that was opened
since. A third cannot open before the end.
-/

namespace Gatehouse.Proofs
open Service

/-- A stretch of time, among the readings of a clock, in which no window that opens comes to its end. -/
structure Stretch (window : Span) (readings : List Instant) (inside : Instant → Prop) : Prop where
  unbroken : ∀ r ∈ readings, ∀ s ∈ readings, ∀ t ∈ readings, r ≤ s → s ≤ t → inside r → inside t → inside s
  short : ∀ r ∈ readings, ∀ t ∈ readings, inside r → inside t →
    ∀ ends, r.add? window = some ends → t < ends

/-- Outside of leap seconds these are the stretches of the length of a window, the end left out. -/
lemma stretch_of_nanos {window : Span} {readings : List Instant} (first : Int)
    (hordinary : ∀ r ∈ readings, r.leap = false) :
    Stretch window readings fun t => first ≤ t.nanos ∧ t.nanos < first + window := by
  refine ⟨fun r hr s hs t ht hrs hst hr' ht' => ?_, fun r hr t ht hr' ht' ends hends => ?_⟩
  · rw [Instant.le_iff_nanos_le (hordinary r hr) (hordinary s hs)] at hrs
    rw [Instant.le_iff_nanos_le (hordinary s hs) (hordinary t ht)] at hst
    exact ⟨Int.le_trans hr'.1 hrs, Int.lt_of_le_of_lt hst ht'.2⟩
  · obtain ⟨hnanos, hleap⟩ := add?_ordinary (hordinary r hr) hends
    rw [Instant.lt_iff_nanos_lt (hordinary t ht) hleap]
    omega

/-- How many attempts on a key can have been granted within a stretch up to an instant, going by the counter
of the key. Either no window has been opened in the stretch, or the one that has is open still. -/
inductive Tally (limit : Nat) (counter : Option Counter) (t : Instant) (granted : Nat) : Prop
  | early (hlimit : granted ≤ limit) (hcount : ∀ c, counter = some c → granted ≤ c.count)
  | late (c : Counter) (hcounter : counter = some c) (hopen : t < c.resetsAt)
      (hcount : granted ≤ limit + min c.count limit)

variable {limit granted : Nat} {counter : Option Counter} {s t ends : Instant} {key : String} {l : Limiter}
  {window : FixedWindow} {w : World}

lemma tally_le (h : Tally limit counter t granted) : granted ≤ 2 * limit := by
  cases h with
  | early hlimit _ => omega
  | late c _ _ hcount => omega

lemma tally_start (limit : Nat) (counter : Option Counter) (t : Instant) : Tally limit counter t 0 :=
  .early (Nat.zero_le limit) fun c _ => Nat.zero_le c.count

lemma tally_sweep (h : Tally limit counter t granted) (hle : s ≤ t) :
    Tally limit (counter.filter fun c => s < c.resetsAt) t granted := by
  cases h with
  | early hlimit hcount =>
    exact .early hlimit fun c hc => hcount c (Option.filter_eq_some_iff.1 hc).1
  | late c hcounter hopen hcount =>
    refine .late c ?_ hopen hcount
    rw [hcounter, Option.filter_some, if_pos (decide_eq_true (instant_lt_of_le_of_lt hle hopen))]

lemma tally_charge (h : Tally limit counter t granted) (hle : s ≤ t) (hends : t < ends) :
    Tally limit (some (Counter.charge counter s ends)) t
      (granted + if (Counter.charge counter s ends).count ≤ limit then 1 else 0) := by
  -- a window that opens now starts a new count, which adds to what an earlier one has left in the stretch
  have hopened : granted ≤ limit → Tally limit (some ⟨1, ends⟩) t (granted + if 1 ≤ limit then 1 else 0) := by
    intro hlimit
    refine .late ⟨1, ends⟩ rfl hends ?_
    show granted + _ ≤ limit + min 1 limit
    split <;> omega
  cases h with
  | early hlimit hcount =>
    cases counter with
    | none => exact hopened hlimit
    | some c =>
      have hold := hcount c rfl
      unfold Counter.charge
      simp only
      split
      · exact hopened hlimit
      · refine .early ?_ fun c' hc' => ?_
        · show granted + (if c.count + 1 ≤ limit then 1 else 0) ≤ limit
          split <;> omega
        · cases hc'
          show granted + (if c.count + 1 ≤ limit then 1 else 0) ≤ c.count + 1
          split <;> omega
  | late c hcounter hopen hcount =>
    subst hcounter
    have hcharge : Counter.charge (some c) s ends = ⟨c.count + 1, c.resetsAt⟩ :=
      if_neg (instant_not_le.2 (instant_lt_of_le_of_lt hle hopen))
    rw [hcharge]
    refine .late ⟨c.count + 1, c.resetsAt⟩ rfl hopen ?_
    show granted + (if c.count + 1 ≤ limit then 1 else 0) ≤ limit + min (c.count + 1) limit
    split <;> omega

lemma tally_sweepIfDue (h : Tally limit (l.counter? key) t granted) (hle : s ≤ t) :
    Tally limit ((sweepIfDue l s).counter? key) t granted := by
  unfold sweepIfDue
  split
  · rw [Limiter.counter?_sweep]
    exact tally_sweep h hle
  · exact h

/-- An attempt is refused when the end of its window cannot be reckoned with. -/
lemma attempt_of_none (hends : s.add? l.window.window = none) (key : String) :
    isAllowed (l.attempt s key).1 = false ∧
      ((l.attempt s key).2 = l ∨ (l.attempt s key).2 = sweepIfDue l s) := by
  rw [attempt_eq_of_out_of_range key hends]
  split
  · exact ⟨rfl, Or.inl rfl⟩
  · exact ⟨rfl, Or.inr rfl⟩

lemma tally_attempt (h : Tally l.window.limit.toNat (l.counter? key) t granted) (hle : s ≤ t)
    (hshort : ∀ ends, s.add? l.window.window = some ends → t < ends) (key' : String) :
    Tally l.window.limit.toNat ((l.attempt s key').2.counter? key) t
      (granted + if key' = key ∧ isAllowed (l.attempt s key').1 = true then 1 else 0) := by
  have hswept := tally_sweepIfDue h hle
  cases hends : s.add? l.window.window with
  | none =>
    obtain ⟨hrefused, hl | hl⟩ := attempt_of_none hends key'
    · rw [hrefused, hl, if_neg fun hgrant => Bool.false_ne_true hgrant.2]
      exact h
    · rw [hrefused, hl, if_neg fun hgrant => Bool.false_ne_true hgrant.2]
      exact hswept
  | some ends =>
    rw [attempt_eq key' hends, counter?_countAttempt]
    by_cases hkey : key' = key
    · subst hkey
      have hcharged := tally_charge hswept hle (hshort ends hends)
      simp only [isAllowed, Limiter.verdict, decide_eq_true_eq, true_and, if_true]
      exact hcharged
    · rw [if_neg (Ne.symm hkey), if_neg fun hgrant => hkey hgrant.1]
      exact hswept

/-- The counter of a key in a world. -/
def counterIn (w : World) (key : String) : Option Counter := w.limiter.bind fun l => l.counter? key

/-- The limiter of a world keeps a certain window. -/
def Ruled (window : FixedWindow) (w : World) : Prop := w.limiter.map Limiter.window = some window

lemma limiter_answer {c : Call} (hc : ∀ key, c ≠ .attempt key) (w : World) :
    (World.answer c w).2.limiter = w.limiter := by
  have hleaves := answer_leaves c w
  generalize (World.answer c w).2 = w' at hleaves ⊢
  cases hleaves with
  | attempted key limiter => exact absurd rfl (hc key)
  | _ => rfl

lemma window_answer (c : Call) (w : World) :
    (World.answer c w).2.limiter.map Limiter.window = w.limiter.map Limiter.window := by
  cases c with
  | attempt key =>
    simp only [World.answer, World.attempt]
    cases hl : w.limiter with
    | none => simp only [hl]
    | some l => exact congrArg some (attempt_window l w.now key)
  | _ => rw [limiter_answer fun _ hc => by cases hc]

lemma tally_answer (hruled : Ruled window w) (h : Tally window.limit.toNat (counterIn w key) t granted)
    (hle : w.now ≤ t) (hshort : ∀ ends, w.now.add? window.window = some ends → t < ends) (c : Call) :
    Tally window.limit.toNat (counterIn (World.answer c w).2 key) t
      (granted + if grants key (c, w) = true then 1 else 0) := by
  cases c with
  | attempt key' =>
    obtain ⟨l, hl, rfl⟩ := Option.map_eq_some_iff.1 hruled
    rw [counterIn, hl] at h
    have hattempt := tally_attempt h hle hshort key'
    simp only [grants, World.answer, World.attempt, hl, counterIn, Option.bind_some, Bool.and_eq_true,
      decide_eq_true_eq]
    exact hattempt
  | _ =>
    rw [counterIn, limiter_answer fun _ hc => by cases hc]
    exact h

lemma tally_perform {α : Type} (hruled : Ruled window w)
    (h : Tally window.limit.toNat (counterIn w key) t granted) (hle : w.now ≤ t)
    (hshort : ∀ ends, w.now.add? window.window = some ends → t < ends) (p : Procedure α) :
    Tally window.limit.toNat (counterIn (w.perform p).2 key) t
      (granted + (callsOf w p).countP (grants key)) := by
  induction p generalizing w granted with
  | done a => exact h
  | breakdown => exact h
  | call c next ih =>
    have hanswer := tally_answer hruled h hle hshort c
    have hruled' := (window_answer c w).trans hruled
    have hnow := now_answer c w
    rw [callsOf_call, List.countP_cons]
    unfold World.perform Procedure.run
    generalize World.answer c w = after at hanswer hruled' hnow ⊢
    obtain ⟨answer, w'⟩ := after
    cases answer with
    | none =>
      simp only [List.countP_nil, Nat.zero_add]
      exact hanswer
    | some answer =>
      -- the clock stands still between calls, so that the stretch is as short for the rest
      rw [← hnow] at hle hshort
      have hrest := ih answer hruled' hanswer hle hshort
      rw [Nat.add_right_comm, Nat.add_assoc] at hrest
      exact hrest

/-- How many attempts on a key were granted at moments of a certain kind. -/
def grantsWithin (key : String) (inside : Instant → Prop) [DecidablePred inside] : List SiteEvent → Nat
  | [] => 0
  | event :: earlier =>
    grantsWithin key inside earlier +
      if inside event.moment then event.answer.calls.countP (grants key) else 0

variable {site : Site} {inside : Instant → Prop} [DecidablePred inside] {readings : List Instant}

lemma grantsWithin_eq_zero {events : List SiteEvent} (h : ∀ r ∈ events.map Event.moment, ¬ inside r) :
    grantsWithin key inside events = 0 := by
  induction events with
  | nil => rfl
  | cons event earlier ih =>
    rw [grantsWithin, if_neg (h event.moment List.mem_cons_self)]
    exact ih fun r hr => h r (List.mem_cons_of_mem event.moment hr)

lemma window_purgeLimiter (w : World) :
    w.purgeLimiter.2.limiter.map Limiter.window = w.limiter.map Limiter.window := by
  unfold World.purgeLimiter
  cases hl : w.limiter with
  | none => simp only [hl]
  | some l => rfl

lemma counterIn_purgeLimiter (w : World) (key : String) :
    counterIn w.purgeLimiter.2 key = (counterIn w key).filter fun c => w.now < c.resetsAt := by
  unfold counterIn World.purgeLimiter
  cases hl : w.limiter with
  | none => simp only [hl, Option.bind_none, Option.filter_none]
  | some l => exact Limiter.counter?_sweep l w.now key

lemma tally_step (hruled : Ruled window w) (h : Tally window.limit.toNat (counterIn w key) t granted)
    (hle : w.now ≤ t) (hshort : ∀ ends, w.now.add? window.window = some ends → t < ends) (step : SiteStep) :
    Tally window.limit.toNat (counterIn (takeSiteStep site w step).2 key) t
      (granted + (takeSiteStep site w step).1.calls.countP (grants key)) := by
  cases step with
  | request req => exact tally_perform hruled h hle hshort (site.handle req)
  | purgeSessions => exact h
  | purgeLimiter =>
    simp only [takeSiteStep, counterIn_purgeLimiter]
    exact tally_sweep h hle

lemma siteRun_window (site : Site) (w : World) (steps : List (Instant × SiteStep)) :
    (siteRun site w steps).1.limiter.map Limiter.window = w.limiter.map Limiter.window :=
  siteRun_fixes (f := fun w => w.limiter.map Limiter.window) (fun _ _ => rfl) window_answer (fun _ => rfl)
    window_purgeLimiter site w steps

lemma siteRun_ruled (site : Site) (w : World) (hruled : Ruled window w) (steps : List (Instant × SiteStep)) :
    Ruled window (siteRun site w steps).1 :=
  (siteRun_window site w steps).trans hruled

/-- Up to any moment of a stretch the tally of a key counts what has been granted in the stretch. -/
lemma siteRun_tally (site : Site) (w : World) (hruled : Ruled window w)
    (hstretch : Stretch window.window readings inside) (key : String) (steps : List (Instant × SiteStep))
    (hreadings : ∀ r ∈ steps.map Prod.fst, r ∈ readings ∧ r ≤ t) (hclock : Forward (steps.map Prod.fst))
    (ht : t ∈ readings) (hinside : inside t) :
    Tally window.limit.toNat (counterIn (siteRun site w steps).1 key) t
      (grantsWithin key inside (siteRun site w steps).2) := by
  induction steps with
  | nil => exact tally_start _ _ t
  | cons last earlier ih =>
    obtain ⟨s, step⟩ := last
    obtain ⟨hlater, hearlier⟩ := List.pairwise_cons.1 hclock
    obtain ⟨hs, hle⟩ := hreadings s List.mem_cons_self
    have hrest := fun r hr => hreadings r (List.mem_cons_of_mem s hr)
    have htally := ih hrest hearlier
    by_cases hin : inside s
    · have hnow := hstretch.short s hs t ht hin hinside
      show Tally _ _ t (_ + if inside s then _ else _)
      rw [if_pos hin]
      exact tally_step (w := { (siteRun site w earlier).1 with now := s })
        (siteRun_ruled site w hruled earlier) htally hle hnow step
    -- the stretch has not begun yet, so there is nothing to count
    · have hnone : ∀ r ∈ earlier.map Prod.fst, ¬ inside r := fun r hr hin' =>
        hin (hstretch.unbroken r (hrest r hr).1 s hs t ht (hlater r hr) hle hin' hinside)
      rw [← worldRun_moments (takeSiteStep site) w earlier] at hnone
      show Tally _ _ t (grantsWithin key inside (siteRun site w earlier).2 + if inside s then _ else 0)
      rw [if_neg hin,
        show grantsWithin key inside (siteRun site w earlier).2 = 0 from grantsWithin_eq_zero hnone]
      exact tally_start _ _ t

lemma grantsWithin_le (site : Site) (w : World) (hruled : Ruled window w)
    (hstretch : Stretch window.window readings inside) (key : String) (steps : List (Instant × SiteStep))
    (hreadings : ∀ r ∈ steps.map Prod.fst, r ∈ readings) (hclock : Forward (steps.map Prod.fst)) :
    grantsWithin key inside (siteRun site w steps).2 ≤ 2 * window.limit.toNat := by
  induction steps with
  | nil => exact Nat.zero_le _
  | cons last earlier ih =>
    obtain ⟨s, step⟩ := last
    obtain ⟨hlater, hearlier⟩ := List.pairwise_cons.1 hclock
    by_cases hin : inside s
    · refine tally_le (siteRun_tally site w hruled hstretch key _ (fun r hr => ⟨hreadings r hr, ?_⟩) hclock
        (hreadings s List.mem_cons_self) hin)
      rcases List.mem_cons.1 hr with rfl | hr
      · exact instant_le_refl r
      · exact hlater r hr
    · show grantsWithin key inside (siteRun site w earlier).2 + (if inside s then _ else 0) ≤ _
      rw [if_neg hin]
      exact ih (fun r hr => hreadings r (List.mem_cons_of_mem s hr)) hearlier

/-! ### From look-ups to grants -/

def requestOf? (event : SiteEvent) : Option Http.Request :=
  match event.step with
  | .request req => some req
  | _ => none

/-- A request that gets as far as the look-up of a user. -/
def passes (event : SiteEvent) : Bool := event.answer.calls.any fun x => isLookup x.1

/-- If a request gets to a look-up, an attempt was granted on every key that it is charged on. -/
def Settled (trustProxy : Bool) (event : SiteEvent) : Prop :=
  passes event = true → ∀ req, requestOf? event = some req →
    ∀ key ∈ chargedKeys trustProxy req, 0 < event.answer.calls.countP (grants key)

lemma siteRun_settled (site : Site) (w : World) (steps : List (Instant × SiteStep)) :
    ∀ event ∈ (siteRun site w steps).2, Settled site.trustProxy event := by
  refine worldRun_keeps (P := fun _ events => ∀ event ∈ events, Settled site.trustProxy event)
    (fun event h => absurd h List.not_mem_nil) (fun w events t step h event hevent => ?_) steps
  rcases List.mem_cons.1 hevent with rfl | hevent
  · intro hpasses req hreq key hkey
    cases step with
    | request req' =>
      cases hreq
      obtain ⟨x, hx, hlookup⟩ := List.any_eq_true.1 hpasses
      exact List.countP_pos_iff.2 (charged_handle site { w with now := t } req x hx hlookup key hkey)
    | purgeSessions => cases hreq
    | purgeLimiter => cases hreq
  · exact h event hevent

lemma countP_le_grantsWithin (Q : SiteEvent → Prop) [DecidablePred Q] {events : List SiteEvent}
    (h : ∀ event ∈ events, Q event → 0 < event.answer.calls.countP (grants key)) :
    events.countP (fun event => inside event.moment ∧ Q event) ≤ grantsWithin key inside events := by
  induction events with
  | nil => exact Nat.le_refl 0
  | cons event earlier ih =>
    have hrest := ih fun event' h' => h event' (List.mem_cons_of_mem event h')
    rw [List.countP_cons, grantsWithin]
    by_cases hin : inside event.moment
    · by_cases hQ : Q event
      · have hgrant := h event List.mem_cons_self hQ
        rw [if_pos hin]
        split <;> omega
      · rw [if_neg (by simp [hQ])]
        omega
    · rw [if_neg (by simp [hin]), if_neg hin]
      exact hrest

/-- Four octets or eight groups. -/
def WellFormed : Http.Address → Prop
  | .v4 octets => octets.length = 4
  | .v6 groups => groups.length = 8

lemma isBlankText_append (a b : String) :
    Text.isBlankText (a ++ b) = (Text.isBlankText a && Text.isBlankText b) := by
  unfold Text.isBlankText
  rw [String.toList_append, List.all_append]

lemma intercalate_not_blank {sep : String} (hsep : Text.isBlankText sep = false) {texts : List String}
    (h : 2 ≤ texts.length) : Text.isBlankText (sep.intercalate texts) = false := by
  obtain ⟨a, rest, rfl⟩ := List.exists_cons_of_length_pos (by omega : 0 < texts.length)
  obtain ⟨b, rest, rfl⟩ := List.exists_cons_of_length_pos (Nat.le_of_succ_le_succ h : 0 < rest.length)
  rw [String.intercalate_cons_cons, isBlankText_append, isBlankText_append, hsep, Bool.and_false,
    Bool.false_and]

lemma text_not_blank {a : Http.Address} (ha : WellFormed a) : Text.isBlankText a.text = false := by
  cases a with
  | v4 octets =>
    have hlength : octets.length = 4 := ha
    exact intercalate_not_blank rfl (by rw [List.length_map]; omega)
  | v6 groups =>
    have hlength : groups.length = 8 := ha
    show Text.isBlankText (Http.Address.v6Text groups) = false
    unfold Http.Address.v6Text
    split
    · rw [isBlankText_append]
      rfl
    · simp only
      split
      · rw [isBlankText_append, isBlankText_append]
        simp [show Text.isBlankText "::" = false from rfl]
      · exact intercalate_not_blank rfl (by rw [List.length_map]; omega)

lemma addressKey?_of_peer {req : Http.Request} {a : Http.Address} (hpeer : req.peer = some a)
    (ha : WellFormed a) : addressKey? (clientAddress? false req) =
      some ("login:ip:" ++ Text.trim a.text) := by
  have hnonempty : Text.trim a.text ≠ "" := by
    rw [ne_eq, Text.trim_eq_empty_iff, text_not_blank ha]
    exact Bool.false_ne_true
  have haddress : clientAddress? false req = some a.text := by
    unfold clientAddress?
    rw [hpeer]
    rfl
  rw [haddress]
  exact if_neg hnonempty

lemma key_ne_key {ip : Option String} {email : String} (window : FixedWindow)
    (h : addressKey? ip = some key) :
    window.key key ≠ window.key (emailKey email) := by
  obtain ⟨text, _, hkey⟩ := Option.bind_eq_some_iff.1 h
  split at hkey
  · cases hkey
  · cases hkey
    unfold FixedWindow.key emailKey
    rw [ne_eq, String.append_right_inj, ← String.toList_inj, String.toList_append, String.toList_append]
    simp

/-- In every run of a site whose limiter starts afresh, and in every stretch of the length of a window, at
most twice the limit of requests with one email address get to the look-up of a user, in whatever spelling
and from wherever; and so do at most twice the limit of requests from one peer, whatever they say, as long
as headers about the address are not believed. Addresses and email addresses are never counted together. -/
theorem lookups_throttled (site : Site) (w : World) (window : FixedWindow) (start : Instant)
    (steps : List (Instant × SiteStep)) (hclock : Forward (steps.map Prod.fst)) :
    let events := (siteRun site { w with limiter := some (Limiter.start window start) } steps).2
    let most := 2 * window.normalized.limit.toNat
    (∀ (inside : Instant → Prop) [DecidablePred inside],
      Stretch window.normalized.window (steps.map Prod.fst) inside →
      (∀ email, events.countP (fun event => inside event.moment ∧
        passes event = true ∧ (requestOf? event).bind sentEmail? = some email) ≤ most) ∧
      (site.trustProxy = false → ∀ a, WellFormed a → events.countP (fun event => inside event.moment ∧
        passes event = true ∧ (requestOf? event).bind (·.peer) = some a) ≤ most)) ∧
    ((∀ r ∈ steps.map Prod.fst, r.leap = false) → ∀ first : Int,
      Stretch window.normalized.window (steps.map Prod.fst) fun t =>
        first ≤ t.nanos ∧ t.nanos < first + window.normalized.window) ∧
    ∀ ip email key, addressKey? ip = some key →
      window.normalized.key key ≠ window.normalized.key (emailKey email) := by
  intro events most
  have hsettled : ∀ event ∈ events, Settled site.trustProxy event := siteRun_settled site _ steps
  refine ⟨fun inside _ hstretch => ?_, fun hordinary first => stretch_of_nanos first hordinary,
    fun ip email key hkey => key_ne_key window.normalized hkey⟩
  have hgrants : ∀ key, grantsWithin key inside events ≤ most := fun key =>
    grantsWithin_le site { w with limiter := some (Limiter.start window start) } rfl hstretch key steps
      (fun _ hr => hr) hclock
  refine ⟨fun email => ?_, fun htrust a ha => ?_⟩
  · refine Nat.le_trans (countP_le_grantsWithin _ fun event hevent hQ => ?_) (hgrants (emailKey email))
    obtain ⟨hpasses, hemail⟩ := hQ
    obtain ⟨req, hreq, hsent⟩ := Option.bind_eq_some_iff.1 hemail
    refine hsettled event hevent hpasses req hreq (emailKey email) (List.mem_append_right _ ?_)
    rw [hsent]
    exact List.mem_singleton_self _
  · refine Nat.le_trans (countP_le_grantsWithin _ fun event hevent hQ => ?_)
      (hgrants ("login:ip:" ++ Text.trim a.text))
    obtain ⟨hpasses, hfrom⟩ := hQ
    obtain ⟨req, hreq, hpeer⟩ := Option.bind_eq_some_iff.1 hfrom
    refine hsettled event hevent hpasses req hreq _ (List.mem_append_left _ ?_)
    rw [htrust, addressKey?_of_peer hpeer ha]
    exact List.mem_singleton_self _

def loginRequest (email : String) : Http.Request where
  method := .post
  path := "/auth/login".toList
  body := Text.utf8 ("\x7b\"email\":\"" ++ email ++ "\",\"password\":\"p\"\x7d")
  peer := some (.v4 [127, 0, 0, 1])

def knockingSteps : List (Instant × SiteStep) :=
  [(atSecond 62, .request (loginRequest "a@b")), (atSecond 61, .request (loginRequest " A@b")),
    (atSecond 60, .request (loginRequest "a@B")), (atSecond 59, .request (loginRequest "a@b ")),
    (atSecond 0, .request (loginRequest "a@b"))]

/-- Of five logins with two per minute the last four come within four seconds, and three of them get
through. -/
theorem lookups_throttled_knocking :
    let events := (siteRun hourSite { openWorld with limiter := some (Limiter.start pairPerMinute .epoch) }
      knockingSteps).2
    let inside := fun t : Instant => 59000000000 ≤ t.nanos ∧
      t.nanos < 59000000000 + pairPerMinute.normalized.window
    let passed := events.countP fun event => inside event.moment ∧
      passes event = true ∧ (requestOf? event).bind sentEmail? = some "a@b"
    Forward (knockingSteps.map Prod.fst) ∧ passed = 3 ∧
    passed ≤ 2 * pairPerMinute.normalized.limit.toNat := by
  have hclock : Forward (knockingSteps.map Prod.fst) := by decide
  have hthrottled := lookups_throttled hourSite openWorld pairPerMinute .epoch knockingSteps hclock
  have hstretch := hthrottled.2.1 (by decide) 59000000000
  exact ⟨hclock, by decide +kernel, (hthrottled.1 _ hstretch).1 "a@b"⟩

end Gatehouse.Proofs
