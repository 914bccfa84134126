import Gatehouse.Proofs.ClockRange

/-!
# What a login does, in full

A login is checked for its form, charged on the address of the client and then on the email address, and
only then is anybody looked up. Each of these may end it, and whatever comes after has then not happened: a
login that is refused on the address is not charged on the email address, and a login that fails files no
session. An attempt may also sweep counters away, but only those whose windows have ended, so that nothing
is left to be told from them.
-/

namespace Gatehouse.Proofs
open Service Attempt SessionPolicy

variable {sv : Service} {w : World} {l l' : Limiter} {now t ends : Instant} {key email password : String}
  {ip : Option String} {inserted : List User}

/-- The bucket of a key: its counter, as long as the window of it is open. -/
def bucket? (l : Limiter) (now : Instant) (key : String) : Option Counter :=
  (l.counter? key).filter fun c => now < c.resetsAt

/-- The counter of a key after one more attempt, which falls into the window that is open or opens one. -/
def nextCounter (l : Limiter) (now ends : Instant) (key : String) : Counter :=
  match bucket? l now key with
  | none => ⟨1, ends⟩
  | some c => ⟨c.count + 1, c.resetsAt⟩

/-- One attempt on a key has been counted and nothing else. The buckets of other keys are what they were,
now and later. No other counter is new; some may be gone, but only if they no longer stand for a bucket. -/
structure ChargedOn (l : Limiter) (now ends : Instant) (key : String) (l' : Limiter) : Prop where
  window : l'.window = l.window
  own : l'.counter? key = some (nextCounter l now ends key)
  others : ∀ key', key' ≠ key → ∀ t, now ≤ t → bucket? l' t key' = bucket? l t key'
  kept : ∀ name c, name ≠ l.window.key key → l'.counters.get? name = some c → l.counters.get? name = some c

lemma nextCounter_eq (l : Limiter) (now ends : Instant) (key : String) :
    nextCounter l now ends key = Counter.charge (l.counter? key) now ends := by
  unfold nextCounter bucket? Counter.charge
  cases l.counter? key with
  | none => rfl
  | some c =>
    rw [Option.filter_some]
    by_cases hopen : now < c.resetsAt
    · rw [if_pos (decide_eq_true hopen)]
      exact (if_neg (instant_not_le.2 hopen)).symm
    · rw [if_neg (by simpa using hopen)]
      exact (if_pos (instant_not_lt.1 hopen)).symm

lemma bucket?_sweepIfDue (l : Limiter) (hle : now ≤ t) (key : String) :
    bucket? (sweepIfDue l now) t key = bucket? l t key := by
  unfold sweepIfDue
  split
  · unfold bucket?
    rw [Limiter.counter?_sweep, Option.filter_filter]
    refine congrArg (Option.filter · _) (funext fun c => ?_)
    by_cases hopen : t < c.resetsAt
    · simp [hopen, instant_lt_of_le_of_lt hle hopen]
    · simp [hopen]
  · rfl

lemma nextCounter_sweepIfDue (l : Limiter) (now ends : Instant) (key : String) :
    nextCounter (sweepIfDue l now) now ends key = nextCounter l now ends key := by
  unfold nextCounter
  rw [bucket?_sweepIfDue l (instant_le_refl now)]

lemma sweepIfDue_kept (l : Limiter) (now : Instant) {name : String} {c : Counter}
    (h : (sweepIfDue l now).counters.get? name = some c) : l.counters.get? name = some c := by
  unfold sweepIfDue at h
  split at h
  · rw [Limiter.sweep, Table.get?_filter, Option.filter_eq_some_iff] at h
    exact h.1
  · exact h

lemma countAttempt_charged (l : Limiter) (now ends : Instant) (key : String) (nextSweep : Instant) :
    ChargedOn l now ends key (countAttempt (sweepIfDue l now) now ends key nextSweep) := by
  refine ⟨sweepIfDue_window l now, ?_, fun key' hne t hle => ?_, fun name c hname hc => ?_⟩
  · rw [counter?_countAttempt, if_pos rfl, ← nextCounter_eq, nextCounter_sweepIfDue]
  · rw [← bucket?_sweepIfDue l hle]
    unfold bucket?
    rw [counter?_countAttempt, if_neg hne]
  · rw [← sweepIfDue_window l now] at hname
    refine sweepIfDue_kept l now ?_
    rw [← hc]
    exact ((Table.get?_insert _ _ _ _).trans (if_neg hname)).symm

lemma attempt_charged (hends : now.add? l.window.window = some ends) (key : String) :
    ∃ l', ChargedOn l now ends key l' ∧
      l.attempt now key = (some (.ok (l.verdict (nextCounter l now ends key) now)), l') := by
  let nextSweep := if l.nextSweep ≤ now then ends else l.nextSweep
  refine ⟨_, countAttempt_charged l now ends key nextSweep, ?_⟩
  rw [attempt_eq key hends, ← nextCounter_eq, nextCounter_sweepIfDue]

/-- One key after the other is charged, until one of them is over the limit. Then there is a time to wait,
which is what is left of its window, and no key after it is charged. -/
inductive Charges (now ends : Instant) : List String → Limiter → Option Span → Limiter → Prop
  | done (l : Limiter) : Charges now ends [] l none l
  | refused {key : String} {keys : List String} {l l' : Limiter} (hcharged : ChargedOn l now ends key l')
      (hover : l.window.limit.toNat < (nextCounter l now ends key).count) :
      Charges now ends (key :: keys) l (some ((nextCounter l now ends key).resetsAt.since now).toNat) l'
  | passed {key : String} {keys : List String} {l l' l'' : Limiter} {wait : Option Span}
      (hcharged : ChargedOn l now ends key l')
      (hwithin : (nextCounter l now ends key).count ≤ l.window.limit.toNat)
      (hrest : Charges now ends keys l' wait l'') : Charges now ends (key :: keys) l wait l''

def chargeAll : List String → Attempt AuthError Unit
  | [] => return
  | key :: keys => do
    charge key
    chargeAll keys

/-- How long to wait if the last attempt on a key was one too many. -/
def waitAfter (l : Limiter) (now : Instant) (c : Counter) : Option Span :=
  if c.count ≤ l.window.limit.toNat then none else some (c.resetsAt.since now).toNat

/-- What a caller is told who has to wait. -/
def told : Option Span → Except AuthError Unit
  | none => .ok ()
  | some d => .error (.tooMany d)

lemma charge_charged (hl : w.limiter = some l) (hends : w.now.add? l.window.window = some ends)
    (key : String) :
    ∃ l', ChargedOn l w.now ends key l' ∧
      w.perform (charge key).run =
        (some (told (waitAfter l w.now (nextCounter l w.now ends key))), { w with limiter := some l' }) := by
  obtain ⟨l', hcharged, hattempt⟩ := attempt_charged hends key
  refine ⟨l', hcharged, ?_⟩
  unfold charge waitAfter
  simp only [perform_bind, perform_ask, World.answer, World.attempt, hl, hattempt, Option.map_some,
    perform_orTell, mapError_ok, Limiter.verdict]
  by_cases hwithin : (nextCounter l w.now ends key).count ≤ l.window.limit.toNat
  · simp only [hwithin, decide_true, Bool.not_true, Bool.false_eq_true, if_false, if_true]
    rfl
  · simp only [hwithin, decide_false, Bool.not_false, if_false, if_true]
    rfl

lemma chargeAll_charges (keys : List String) (hl : w.limiter = some l)
    (hends : w.now.add? l.window.window = some ends) :
    ∃ wait l', Charges w.now ends keys l wait l' ∧
      w.perform (chargeAll keys).run = (some (told wait), { w with limiter := some l' }) := by
  induction keys generalizing w l with
  | nil =>
    refine ⟨none, l, .done l, ?_⟩
    rw [← hl]
    rfl
  | cons key keys ih =>
    obtain ⟨l', hcharged, hrun⟩ := charge_charged hl hends key
    rw [chargeAll, perform_bind, hrun, waitAfter]
    by_cases hwithin : (nextCounter l w.now ends key).count ≤ l.window.limit.toNat
    · rw [← hcharged.window] at hends
      obtain ⟨wait, l'', hrest, hrun'⟩ := ih (w := { w with limiter := some l' }) rfl hends
      rw [if_pos hwithin]
      exact ⟨wait, l'', .passed hcharged hwithin hrest, hrun'⟩
    · rw [if_neg hwithin]
      exact ⟨_, l', .refused hcharged (Nat.lt_of_not_le hwithin), rfl⟩

/-- What is on file after users have been added, the last one first in the list. -/
def usersOf : List User → UserStore
  | [] => Table.empty
  | u :: earlier => (usersOf earlier).add u

/-- The user with an email address who has been added last. -/
def lastWith? (inserted : List User) (email : String) : Option User :=
  inserted.find? fun u => normalEmail u.email = email

lemma findByEmail?_usersOf (inserted : List User) (email : String) :
    (usersOf inserted).findByEmail? email = (lastWith? inserted email).map fun u => { u with email } := by
  induction inserted with
  | nil => rfl
  | cons u earlier ih =>
    have hadded : (usersOf (u :: earlier)).findByEmail? email =
        if email = normalEmail u.email then some { u with email := normalEmail u.email }
        else (usersOf earlier).findByEmail? email := Table.get?_insert _ _ _ _
    rw [hadded, lastWith?, List.find?_cons]
    by_cases hown : normalEmail u.email = email
    · rw [if_pos hown.symm, decide_eq_true hown, hown]
      rfl
    · rw [if_neg (Ne.symm hown), decide_eq_false hown]
      exact ih

/-- Credentials are those of the last user with the email address, if the password is right for that one. -/
lemma ownerOf?_usersOf (husers : w.users = usersOf inserted) (email password : String) :
    ownerOf? w email password =
      ((lastWith? inserted email).filter fun u => w.verify password u.passwordHash).map fun u =>
        { u with email } := by
  rw [ownerOf?, husers, findByEmail?_usersOf]
  cases lastWith? inserted email with
  | none => rfl
  | some u =>
    rw [Option.map_some, Option.filter_some, Option.filter_some]
    cases w.verify password u.passwordHash <;> rfl

/-- An email address and a password that are worth a look. -/
structure Formed (email password : String) : Prop where
  address : normalEmail email ≠ ""
  password : Text.trim password ≠ ""
  sign : '@' ∈ (normalEmail email).toList

/-- All that a login can come to, with its answer and the world that it leaves. -/
inductive LoginCase (sv : Service) (w : World) (l : Limiter) (ends : Instant) (inserted : List User)
    (email password : String) (ip : Option String) (r : Option (Except AuthError LoginOutcome) × World) : Prop
  | missing (hmissing : normalEmail email = "" ∨ Text.trim password = "")
      (hr : r = (some (.error (.invalidInput "email and password are required")), w))
  | malformed (hpresent : normalEmail email ≠ "" ∧ Text.trim password ≠ "")
    (hsign : '@' ∉ (normalEmail email).toList)
      (hr : r = (some (.error (.invalidInput "invalid email")), w))
  | throttled (hformed : Formed email password) (d : Span) (l' : Limiter)
      (hcharges : Charges w.now ends (loginKeys email ip) l (some d) l')
      (hr : r = (some (.error (.rateLimited "too many requests" d)), { w with limiter := some l' }))
  | denied (hformed : Formed email password) (l' : Limiter)
      (hcharges : Charges w.now ends (loginKeys email ip) l none l')
      (hwrong : ∀ u, lastWith? inserted (normalEmail email) = some u →
        w.verify (Text.trim password) u.passwordHash = false)
      (hr : r = (some (.error (.unauthorized "invalid credentials")), { w with limiter := some l' }))
  | granted (hformed : Formed email password) (l' : Limiter)
      (hcharges : Charges w.now ends (loginKeys email ip) l none l') (u : User)
      (hlast : lastWith? inserted (normalEmail email) = some u)
      (hright : w.verify (Text.trim password) u.passwordHash = true)
      (expiresAt evictAt : Instant) (s : Session)
      (hexpiry : sv.policy.cappedExpiry? w.now w.now = some expiresAt)
      (hs : s = newSession sv.policy w u.id u.role expiresAt)
      (hr : r = (some (.ok ⟨⟨u.id, u.role⟩, s⟩),
        fileSession (drawTokens { w with limiter := some l' }) s evictAt))
      (hsize : r.2.sessions.size = w.sessions.size + 1)

lemma admission_eq (hformed : Formed email password) (ip : Option String) :
    admission (normalEmail email) (Text.trim password) ip = chargeAll (loginKeys email ip) := by
  have hsign : (normalEmail email).toList.contains '@' = true := List.contains_iff_mem.2 hformed.sign
  unfold admission loginKeys
  rw [if_neg (not_or.2 ⟨hformed.address, hformed.password⟩), hsign]
  cases addressKey? ip with
  | none => exact (bind_pure _).symm
  | some key => exact congrArg (charge key >>= ·) (funext fun _ => (bind_pure _).symm)

lemma admission_missing (hmissing : normalEmail email = "" ∨ Text.trim password = "") (ip : Option String) :
    admission (normalEmail email) (Text.trim password) ip =
      throw (.invalidInput "email and password are required") := by
  unfold admission
  rw [if_pos hmissing]
  rfl

lemma admission_malformed (hpresent : normalEmail email ≠ "" ∧ Text.trim password ≠ "")
    (hsign : '@' ∉ (normalEmail email).toList) (ip : Option String) :
    admission (normalEmail email) (Text.trim password) ip = throw (.invalidInput "invalid email") := by
  have hcontains : (normalEmail email).toList.contains '@' = false := by
    rw [Bool.eq_false_iff, ne_eq, List.contains_iff_mem]
    exact hsign
  unfold admission
  rw [if_neg (not_or.2 hpresent), hcontains]
  rfl

lemma loginCase_of_admitted (husers : w.users = usersOf inserted) (hrange : Creatable sv.policy w.now)
    (hfresh : w.sessions.get? (nextSessionId sv.policy w) = none) (hformed : Formed email password)
    (hcharges : Charges w.now ends (loginKeys email ip) l none l') :
    LoginCase sv w l ends inserted email password ip
      (examined sv (normalEmail email) (Text.trim password) { w with limiter := some l' }) := by
  have howner := ownerOf?_usersOf (w := { w with limiter := some l' }) husers (normalEmail email)
    (Text.trim password)
  rcases examined_cases (w := { w with limiter := some l' }) hrange (normalEmail email) (Text.trim password)
    with ⟨hnone, hrefused⟩ | ⟨user, expiresAt, evictAt, hsome, hexpiry, hgranted⟩
  · rw [hnone, eq_comm, Option.map_eq_none_iff, Option.filter_eq_none_iff] at howner
    exact .denied hformed l' hcharges (fun u hu => Bool.eq_false_iff.2 (howner u hu)) hrefused
  · rw [hsome, eq_comm, Option.map_eq_some_iff] at howner
    obtain ⟨u, hu, rfl⟩ := howner
    obtain ⟨hlast, hright⟩ := Option.filter_eq_some_iff.1 hu
    refine .granted hformed l' hcharges u hlast hright expiresAt evictAt _ hexpiry rfl hgranted ?_
    rw [hgranted]
    exact Table.size_insert_of_get?_eq_none _ hfresh

/-- A login ends in one of five ways, and nothing else happens in any of them. If the email address or the
password is blank, or there is no sign in the address, it is refused for its form. Otherwise the counters of
the client address, if there is one, and of the email address are charged in turn; the first that is over
the limit ends the login, with what is left of its window as the time to wait. If neither is, the user who
has been added last with this email address gets a new session for the right password, the only one that is
filed, and everybody else is refused. -/
theorem login_exact (sv : Service) (w : World) (l : Limiter) (ends : Instant) (inserted : List User)
    (email password : String) (ip : Option String) (hl : w.limiter = some l)
    (hends : w.now.add? l.window.window = some ends) (husers : w.users = usersOf inserted)
    (hrange : Creatable sv.policy w.now) (hfresh : w.sessions.get? (nextSessionId sv.policy w) = none) :
    LoginCase sv w l ends inserted email password ip (w.perform (sv.login email password ip).run) := by
  rw [perform_login]
  by_cases hmissing : normalEmail email = "" ∨ Text.trim password = ""
  · rw [admission_missing hmissing]
    exact .missing hmissing rfl
  have hpresent := not_or.1 hmissing
  by_cases hsign : '@' ∈ (normalEmail email).toList
  · have hformed : Formed email password := ⟨hpresent.1, hpresent.2, hsign⟩
    obtain ⟨wait, l', hcharges, hrun⟩ := chargeAll_charges (loginKeys email ip) hl hends
    rw [admission_eq hformed, hrun]
    cases wait with
    | some d => exact .throttled hformed d l' hcharges rfl
    | none => exact loginCase_of_admitted husers hrange hfresh hformed hcharges
  · rw [admission_malformed hpresent hsign]
    exact .malformed hpresent hsign rfl

def enrolled : List User :=
  [⟨"usr_2", " B@b", "q", "admin"⟩, ⟨"usr_3", "c@d", "p", "user"⟩, ⟨"usr_1", "b@B ", "p", "user"⟩]

/-- A minute with room for one attempt more on a certain address. -/
def enrolledWorld : World where
  now := atSecond 50
  tokens := countedTokens
  users := usersOf enrolled
  limiter :=
    some (limiterRun (Limiter.start pairPerMinute .epoch) [(atSecond 10, .attempt "login:ip:10.0.0.1")])
  verify := fun password hash => password = hash

/-- Of two users with one email address the later one is let in, and both attempts are counted. -/
theorem login_exact_latest_user :
    let r := enrolledWorld.perform (hourService.login "b@B" " q" (some "10.0.0.1 ")).run
    (∃ s, r.1 = some (.ok ⟨⟨"usr_2", "admin"⟩, s⟩)) ∧ r.2.sessions.size = 1 ∧
      counterIn r.2 "login:ip:10.0.0.1" = some ⟨2, atSecond 70⟩ ∧
      counterIn r.2 "login:email:b@b" = some ⟨1, atSecond 110⟩ := by
  intro r
  let l := limiterRun (Limiter.start pairPerMinute .epoch) [(atSecond 10, .attempt "login:ip:10.0.0.1")]
  have hends : enrolledWorld.now.add? l.window.window = some (atSecond 110) := by decide +kernel
  have hrange : Creatable hourService.policy enrolledWorld.now :=
    ⟨atSecond 3650, by decide +kernel, by decide +kernel⟩
  have haccepted : r.1.any (fun result => result.toBool) = true := by decide +kernel
  have hnot : ∀ e w, r ≠ (some (.error e), w) := by
    intro e w hr
    rw [hr] at haccepted
    cases haccepted
  have hcounted : counterIn r.2 "login:ip:10.0.0.1" = some ⟨2, atSecond 70⟩ ∧
      counterIn r.2 "login:email:b@b" = some ⟨1, atSecond 110⟩ := by decide +kernel
  cases login_exact hourService enrolledWorld l (atSecond 110) enrolled "b@B" " q"
    (some "10.0.0.1 ") rfl hends rfl hrange rfl with
  | granted hformed l' hcharges u hlast hright expiresAt evictAt s hexpiry hs hr hsize =>
    obtain rfl : enrolled.head (by decide) = u := Option.some.inj hlast
    exact ⟨⟨s, congrArg Prod.fst hr⟩, hsize, hcounted⟩
  | missing hmissing hr => exact absurd hr (hnot _ _)
  | malformed hpresent hsign hr => exact absurd hr (hnot _ _)
  | throttled hformed d l' hcharges hr => exact absurd hr (hnot _ _)
  | denied hformed l' hcharges hwrong hr => exact absurd hr (hnot _ _)

end Gatehouse.Proofs
