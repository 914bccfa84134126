import Gatehouse.Proofs.SessionLedger

/-!
# Sessions that come back

A refresh writes a session back as it was handed in, whatever has become of it in the meantime. So a session
that was deleted or has run out is found again after a refresh with an older copy of it, and this is the only
way back. Here the history of a run tells exactly which sessions are found at its end.
-/

namespace Gatehouse.Proofs
open SessionPolicy

variable {p : SessionPolicy} {w : World} {t : Instant} {s : Session} {id : String}
  {kept kept' : String → Option Session} {event : SessionEvent}

/-- The identifier whose standing an event settles, and the session that stands there from then on. -/
def settled? : SessionEvent → Option (String × Option Session)
  | ⟨_, _, some (.ok (.created s))⟩ => some (s.id, some s)
  | ⟨_, _, some (.ok (.refreshed s true))⟩ => some (s.id, some s)
  | ⟨_, .get id, some (.error .notFound)⟩ => some (id, none)
  | ⟨_, .refresh s, some (.error .notFound)⟩ => some (s.id, none)
  | ⟨_, .delete id, some (.ok .deleted)⟩ => some (id, none)
  | _ => none

def settle (kept : String → Option Session) (event : SessionEvent) : String → Option Session :=
  match settled? event with
  | some (id, found) => Function.update kept id found
  | none => kept

/-- The session that stands under an identifier after a history, whose last event comes first. -/
def ledgerOf : List SessionEvent → String → Option Session
  | [] => fun _ => none
  | event :: earlier => settle (ledgerOf earlier) event

lemma settle_of_settled {found : Option Session} (h : settled? event = some (id, found)) :
    settle kept event = Function.update kept id found := by
  unfold settle
  rw [h]

lemma settle_of_not_settled (h : settled? event = none) : settle kept event = kept := by
  unfold settle
  rw [h]

lemma settle_congr (h : kept id = kept' id) : settle kept event id = settle kept' event id := by
  unfold settle
  cases settled? event with
  | none => exact h
  | some settled =>
    simp only [Function.update_apply, h]

/-- What happened before a session was gone does not matter any more. -/
lemma ledgerOf_append {after before : List SessionEvent} (hgone : settled? event = some (id, none)) :
    ledgerOf (after ++ event :: before) id = ledgerOf after id := by
  induction after with
  | nil =>
    show settle (ledgerOf before) event id = none
    rw [settle_of_settled hgone, Function.update_self]
  | cons last earlier ih => exact settle_congr ih

/-- Only a session that was written comes to stand somewhere, and it stands under its own identifier. -/
lemma written_of_settled (h : settled? event = some (id, some s)) :
    s.id = id ∧ (event.answer = some (.ok (.created s)) ∨ event.answer = some (.ok (.refreshed s true))) := by
  unfold settled? at h
  split at h <;> cases h
  · exact ⟨rfl, Or.inl rfl⟩
  · exact ⟨rfl, Or.inr rfl⟩

lemma written_of_ledgerOf {events : List SessionEvent} (h : ledgerOf events id = some s) :
    s.id = id ∧ ∃ event ∈ events, event.answer = some (.ok (.created s)) ∨
      event.answer = some (.ok (.refreshed s true)) := by
  induction events with
  | nil => cases h
  | cons last earlier ih =>
    have hearlier : ledgerOf earlier id = some s →
        s.id = id ∧ ∃ event ∈ last :: earlier, event.answer = some (.ok (.created s)) ∨
          event.answer = some (.ok (.refreshed s true)) := by
      intro hstands
      obtain ⟨hid, event, hevent, hanswer⟩ := ih hstands
      exact ⟨hid, event, List.mem_cons_of_mem last hevent, hanswer⟩
    rw [ledgerOf] at h
    cases hsettled : settled? last with
    | none =>
      rw [settle_of_not_settled hsettled] at h
      exact hearlier h
    | some settled =>
      obtain ⟨id', found⟩ := settled
      rw [settle_of_settled hsettled, Function.update_apply] at h
      split at h
      · rename_i heq
        subst heq h
        obtain ⟨hid, hanswer⟩ := written_of_settled hsettled
        exact ⟨hid, last, List.mem_cons_self, hanswer⟩
      · exact hearlier h

lemma takeStep_get_of_lasts {st : SessionStore} (h : Ledger p st t kept) (hid : Text.isBlankText id = false)
    (hs : kept id = some s) (hlasts : Lasts s t) :
    (takeStep p { w with now := t, sessions := st } (.get id)).1 = some (.ok (.found s)) := by
  simp only [takeStep, replying]
  rw [get_of_lasts (w := { w with now := t, sessions := st }) h hid hs hlasts]
  rfl

lemma takeStep_get_of_not_lasts {st : SessionStore} (h : Ledger p st t kept)
    (hid : Text.isBlankText id = false) (hdead : ∀ s, kept id = some s → ¬ Lasts s t) :
    (takeStep p { w with now := t, sessions := st } (.get id)).1 = some (.error .notFound) := by
  simp only [takeStep, replying]
  rw [get_of_not_lasts (w := { w with now := t, sessions := st }) h hid hdead]
  rfl

lemma takeStep_ledger (h : Ledger p w.sessions w.now kept) (step : SessionStep) :
    Ledger p (takeStep p w step).2.sessions w.now (settle kept ⟨w.now, step, (takeStep p w step).1⟩) := by
  cases step with
  | create userId role =>
    simp only [takeStep, replying]
    rcases create_cases p w userId role with hrun | ⟨expiresAt, evictAt, _, hbounded, hevict, hrun⟩
    · rw [hrun]
      exact h
    · rw [hrun]
      exact ledger_insert h hbounded hevict
  | get id =>
    simp only [takeStep, replying]
    cases hblank : Text.isBlankText id with
    | true =>
      rw [perform_get, if_pos hblank]
      exact ledger_blank h hblank none
    | false =>
      by_cases hlasts : ∃ s, kept id = some s ∧ Lasts s w.now
      · obtain ⟨s, hs, hlasts⟩ := hlasts
        rw [get_of_lasts h hblank hs hlasts]
        exact h
      · rw [get_of_not_lasts h hblank fun s hs hl => hlasts ⟨s, hs, hl⟩]
        exact ledger_erase h id
  | refresh s =>
    simp only [takeStep, replying]
    rcases refresh_cases p w s with hrun | ⟨_, hrun⟩ | hrun | ⟨expiresAt, evictAt, _, hbounded, hevict, hrun⟩
    · rw [hrun]
      exact h
    · rw [hrun]
      exact ledger_erase h s.id
    · rw [hrun]
      exact h
    · rw [hrun]
      exact ledger_insert h hbounded hevict
  | delete id => exact ledger_erase h id
  | purge => exact ledger_purge h

/-- Whenever the store is looked at after a run, it agrees with the ledger of the run's history. -/
lemma sessionRun_ledger (p : SessionPolicy) (w : World) (steps : List (Instant × SessionStep)) (t : Instant)
    (hclock : Forward (t :: steps.map Prod.fst)) :
    Ledger p (sessionRun p { w with sessions := Table.empty } steps).1.sessions t
      (ledgerOf (sessionRun p { w with sessions := Table.empty } steps).2) := by
  -- the agreement at the last reading is kept by the step and carried on to any later reading
  induction steps generalizing t with
  | nil => exact ledger_empty p t
  | cons last earlier ih =>
    obtain ⟨hlater, hearlier⟩ := List.pairwise_cons.1 hclock
    have hbefore := ih last.1 hearlier
    exact ledger_later (takeStep_ledger hbefore last.2) (hlater last.1 List.mem_cons_self)

/-- The identifiers of all sessions created in a history come from the first tokens of a source. -/
def Numbered (text : Nat → Nat → String) (n : Nat) (events : List SessionEvent) : Prop :=
  ∀ event ∈ events, ∀ s, event.answer = some (.ok (.created s)) →
    ∃ k bytes, k < n ∧ s.id = "ses_" ++ text k bytes

/-- No identifier is given out twice. -/
def DistinctIds (events : List SessionEvent) : Prop :=
  events.Pairwise fun later earlier => ∀ s s', later.answer = some (.ok (.created s)) →
    earlier.answer = some (.ok (.created s')) → s.id ≠ s'.id

/-- A step draws tokens in their order, and the identifier of a new session is made of the first it draws. -/
lemma takeStep_tokens (p : SessionPolicy) (w : World) (step : SessionStep) :
    (takeStep p w step).2.tokens.text = w.tokens.text ∧
      w.tokens.issued ≤ (takeStep p w step).2.tokens.issued ∧
      ∀ s, (takeStep p w step).1 = some (.ok (.created s)) →
        w.tokens.issued < (takeStep p w step).2.tokens.issued ∧
          ∃ bytes, s.id = "ses_" ++ w.tokens.text w.tokens.issued bytes := by
  cases step with
  | create userId role =>
    have hdrawn : w.tokens.issued < (drawTokens w).tokens.issued :=
      Nat.lt_add_of_pos_right (by decide)
    simp only [takeStep, replying]
    rcases create_cases p w userId role with hrun | ⟨expiresAt, evictAt, _, _, _, hrun⟩
    · rw [hrun]
      exact ⟨rfl, Nat.le_of_lt hdrawn, fun s hs => by cases hs⟩
    · rw [hrun]
      refine ⟨rfl, Nat.le_of_lt hdrawn, fun s hs => ⟨hdrawn, max p.idBytes minRandomBytes, ?_⟩⟩
      cases hs
      rfl
  | get id =>
    simp only [takeStep, replying]
    rcases get_cases p w id with hrun | hrun | ⟨id', hrun⟩ | ⟨e, _, hrun⟩ <;>
      rw [hrun] <;> exact ⟨rfl, Nat.le_refl _, fun s hs => by cases hs⟩
  | refresh s =>
    simp only [takeStep, replying]
    rcases refresh_cases p w s with hrun | ⟨_, hrun⟩ | hrun | ⟨expiresAt, evictAt, _, _, _, hrun⟩ <;>
      rw [hrun] <;> exact ⟨rfl, Nat.le_refl _, fun s hs => by cases hs⟩
  | delete id => exact ⟨rfl, Nat.le_refl _, fun s hs => by cases hs⟩
  | purge => exact ⟨rfl, Nat.le_refl _, fun s hs => by cases hs⟩

lemma sessionRun_ids (p : SessionPolicy) (w : World) (steps : List (Instant × SessionStep)) :
    (sessionRun p w steps).1.tokens.text = w.tokens.text ∧
      Numbered w.tokens.text (sessionRun p w steps).1.tokens.issued (sessionRun p w steps).2 := by
  induction steps with
  | nil => exact ⟨rfl, fun event hevent => by cases hevent⟩
  | cons last earlier ih =>
    obtain ⟨htext, hnumbered⟩ := ih
    obtain ⟨htext', hissued, hcreated⟩ :=
      takeStep_tokens p { (sessionRun p w earlier).1 with now := last.1 } last.2
    refine ⟨htext'.trans htext, fun event hevent s hs => ?_⟩
    rcases List.mem_cons.1 hevent with rfl | hevent
    · obtain ⟨hlt, bytes, hid⟩ := hcreated s hs
      exact ⟨_, bytes, hlt, by rw [hid, htext]⟩
    · obtain ⟨k, bytes, hlt, hid⟩ := hnumbered event hevent s hs
      exact ⟨k, bytes, Nat.lt_of_lt_of_le hlt hissued, hid⟩

lemma sessionRun_distinctIds {p : SessionPolicy} {w : World}
    (hfresh : ∀ n bytes n' bytes', w.tokens.text n bytes = w.tokens.text n' bytes' → n = n')
    (steps : List (Instant × SessionStep)) : DistinctIds (sessionRun p w steps).2 := by
  induction steps with
  | nil => exact List.Pairwise.nil
  | cons last earlier ih =>
    obtain ⟨htext, hnumbered⟩ := sessionRun_ids p w earlier
    obtain ⟨_, _, hcreated⟩ :=
      takeStep_tokens p { (sessionRun p w earlier).1 with now := last.1 } last.2
    refine List.pairwise_cons.2 ⟨fun event hevent s s' hs hs' heq => ?_, ih⟩
    obtain ⟨_, bytes, hid⟩ := hcreated s hs
    obtain ⟨k, bytes', hlt, hid'⟩ := hnumbered event hevent s' hs'
    rw [hid, hid', htext, String.append_right_inj] at heq
    exact absurd (hfresh _ _ _ _ heq) (Nat.ne_of_gt hlt)

/-- Once a session is gone, whether deleted or not found any more, only a refresh that writes it back makes a
difference: a look-up finds the session that the ledger has seen since then, as long as that session lasts,
and nothing otherwise. -/
theorem get_of_gone (p : SessionPolicy) (w : World) (steps : List (Instant × SessionStep)) (t : Instant)
    (id : String) (after before : List SessionEvent) (gone : SessionEvent)
    (hfresh : ∀ n bytes n' bytes', w.tokens.text n bytes = w.tokens.text n' bytes' → n = n')
    (hclock : Forward (t :: steps.map Prod.fst))
    (hrun : (sessionRun p { w with sessions := Table.empty } steps).2 = after ++ gone :: before)
    (hcreated : ∃ event ∈ before, ∃ s, event.answer = some (.ok (.created s)) ∧ s.id = id)
    (hgone : gone.step = .delete id ∧ gone.answer = some (.ok .deleted) ∨
      gone.step = .get id ∧ gone.answer = some (.error .notFound)) :
    let answer := (takeStep p
      { (sessionRun p { w with sessions := Table.empty } steps).1 with now := t } (.get id)).1
    ((∀ event ∈ after, ∀ s, event.answer = some (.ok (.refreshed s true)) → s.id ≠ id) →
        answer = some (.error .notFound)) ∧
      (∀ s, ledgerOf after id = some s → Lasts s t → answer = some (.ok (.found s))) ∧
      (answer = some (.error .notFound) ↔ ∀ s, ledgerOf after id = some s → ¬ Lasts s t) := by
  intro answer
  obtain ⟨_, hnumbered⟩ := sessionRun_ids p { w with sessions := Table.empty } steps
  have hdistinct := sessionRun_distinctIds (p := p) (w := { w with sessions := Table.empty }) hfresh steps
  have hledger := sessionRun_ledger p w steps t hclock
  rw [hrun] at hnumbered hdistinct hledger
  obtain ⟨born, hborn, s₀, hs₀, hid₀⟩ := hcreated
  have hbefore : born ∈ gone :: before := List.mem_cons_of_mem gone hborn
  have hblank : Text.isBlankText id = false := by
    obtain ⟨k, bytes, _, hid⟩ := hnumbered born (List.mem_append_right after hbefore) s₀ hs₀
    rw [← hid₀, hid]
    exact issued_not_blank _
  have hsettled : settled? gone = some (id, none) := by
    obtain ⟨moment, step, reply⟩ := gone
    rcases hgone with ⟨hstep, hanswer⟩ | ⟨hstep, hanswer⟩
    · subst hstep hanswer
      rfl
    · subst hstep hanswer
      rfl
  have hkept : ledgerOf (after ++ gone :: before) id = ledgerOf after id := ledgerOf_append hsettled
  have hnotFound : (∀ s, ledgerOf after id = some s → ¬ Lasts s t) → answer = some (.error .notFound) := by
    intro hdead
    exact takeStep_get_of_not_lasts hledger hblank fun s hs => hdead s (hkept.symm.trans hs)
  have hfound : ∀ s, ledgerOf after id = some s → Lasts s t → answer = some (.ok (.found s)) := by
    intro s hs hlasts
    exact takeStep_get_of_lasts hledger hblank (hkept.trans hs) hlasts
  refine ⟨fun huntouched => hnotFound fun s hs _ => ?_, hfound, fun hanswer s hs hlasts => ?_, hnotFound⟩
  · -- what stands there now was not created since, or its identifier would have been given out twice
    obtain ⟨hid, event, hevent, hanswer⟩ := written_of_ledgerOf hs
    rcases hanswer with hanswer | hanswer
    · obtain ⟨_, _, hapart⟩ := List.pairwise_append.1 hdistinct
      exact hapart event hevent born hbefore s s₀ hanswer hs₀ (hid.trans hid₀.symm)
    · exact huntouched event hevent s hanswer hid
  · rw [hfound s hs hlasts] at hanswer
    cases hanswer

def firstSession : Session where
  id := "ses_a"
  userId := "u"
  role := "r"
  csrfToken := "aa"
  createdAt := atSecond 0
  lastRefreshedAt := atSecond 0
  expiresAt := atSecond 3600

def revivedSession : Session :=
  { firstSession with lastRefreshedAt := atSecond 2, expiresAt := atSecond 3602 }

def revivalWorld : World := { now := .epoch, tokens := countedTokens }

/-- A session is created, deleted, and refreshed with the copy of it that was handed out at first. -/
def revivalSteps : List (Instant × SessionStep) :=
  [(atSecond 2, .refresh firstSession), (atSecond 1, .delete "ses_a"), (atSecond 0, .create "u" "r")]

theorem get_of_gone_revived :
    Forward (atSecond 3 :: revivalSteps.map Prod.fst) ∧
      (takeStep hourPolicy { (sessionRun hourPolicy revivalWorld revivalSteps).1 with now := atSecond 3 }
        (.get "ses_a")).1 = some (.ok (.found revivedSession)) := by
  have hclock : Forward (atSecond 3 :: revivalSteps.map Prod.fst) := by decide
  have hlasts : Lasts revivedSession (atSecond 3) :=
    ⟨by decide, atSecond 3602, by decide, by decide⟩
  have hgone := get_of_gone hourPolicy revivalWorld revivalSteps (atSecond 3) "ses_a"
    [⟨atSecond 2, .refresh firstSession, some (.ok (.refreshed revivedSession true))⟩]
    [⟨atSecond 0, .create "u" "r", some (.ok (.created firstSession))⟩]
    ⟨atSecond 1, .delete "ses_a", some (.ok .deleted)⟩ countedTokens_fresh hclock rfl
    ⟨_, List.mem_cons_self, firstSession, rfl, rfl⟩ (Or.inl ⟨rfl, rfl⟩)
  exact ⟨hclock, hgone.2.1 revivedSession rfl hlasts⟩

/-- The session that an answer tells, be it written or not. -/
def told? : SessionAnswer → Option Session
  | some (.ok (.created s)) => some s
  | some (.ok (.found s)) => some s
  | some (.ok (.refreshed s _)) => some s
  | _ => none

def Told (events : List SessionEvent) (s : Session) : Prop := ∃ event ∈ events, told? event.answer = some s

/-- Whatever is refreshed in a run was told earlier in it. -/
def RefreshesTold (p : SessionPolicy) (w : World) : List (Instant × SessionStep) → Prop
  | [] => True
  | (_, step) :: earlier =>
    (∀ s, step = .refresh s → Told (sessionRun p w earlier).2 s) ∧ RefreshesTold p w earlier

/-- In every run that refreshes only what it was told, no look-up finds a session once it is gone. -/
def StaysGone (IsGone : String → SessionEvent → Prop) : Prop :=
  ∀ (p : SessionPolicy) (w : World) (steps : List (Instant × SessionStep)) (t : Instant) (id : String)
    (after before : List SessionEvent) (gone : SessionEvent),
    (∀ n bytes n' bytes', w.tokens.text n bytes = w.tokens.text n' bytes' → n = n') →
    Forward (t :: steps.map Prod.fst) →
    RefreshesTold p { w with sessions := Table.empty } steps →
    (sessionRun p { w with sessions := Table.empty } steps).2 = after ++ gone :: before →
    (∃ event ∈ before, ∃ s, event.answer = some (.ok (.created s)) ∧ s.id = id) →
    IsGone id gone →
    (takeStep p { (sessionRun p { w with sessions := Table.empty } steps).1 with now := t } (.get id)).1 =
      some (.error .notFound)

/-- A session is created, not found any more after an hour, and refreshed with the copy that was handed out
at first. -/
def lateRevivalSteps : List (Instant × SessionStep) :=
  [(atSecond 3602, .refresh firstSession), (atSecond 3601, .get "ses_a"), (atSecond 0, .create "u" "r")]

def lateSession : Session :=
  { firstSession with lastRefreshedAt := atSecond 3602, expiresAt := atSecond 7202 }

lemma refreshesTold_first {t t' : Instant} {step : SessionStep} (hstep : ∀ s, step ≠ .refresh s) :
    RefreshesTold hourPolicy revivalWorld
      [(t', .refresh firstSession), (t, step), (atSecond 0, .create "u" "r")] := by
  refine ⟨fun s hs => ?_, fun s hs => absurd hs (hstep s), fun s hs => ?_, trivial⟩
  · cases hs
    exact ⟨_, List.mem_cons_of_mem _ List.mem_cons_self, rfl⟩
  · cases hs

/-- So a session can be found again after it was deleted, and after it was not found any more. -/
theorem gone_not_for_good :
    ¬ StaysGone (fun id gone => gone.step = .delete id ∧ gone.answer = some (.ok .deleted)) ∧
      ¬ StaysGone (fun id gone => gone.step = .get id ∧ gone.answer = some (.error .notFound)) := by
  constructor
  · intro h
    have hfound := h hourPolicy revivalWorld revivalSteps (atSecond 3) "ses_a"
      [⟨atSecond 2, .refresh firstSession, some (.ok (.refreshed revivedSession true))⟩]
      [⟨atSecond 0, .create "u" "r", some (.ok (.created firstSession))⟩]
      ⟨atSecond 1, .delete "ses_a", some (.ok .deleted)⟩ countedTokens_fresh (by decide)
      (refreshesTold_first fun _ => SessionStep.noConfusion) rfl
      ⟨_, List.mem_cons_self, firstSession, rfl, rfl⟩ ⟨rfl, rfl⟩
    cases hfound
  · intro h
    have hfound := h hourPolicy revivalWorld lateRevivalSteps (atSecond 3603) "ses_a"
      [⟨atSecond 3602, .refresh firstSession, some (.ok (.refreshed lateSession true))⟩]
      [⟨atSecond 0, .create "u" "r", some (.ok (.created firstSession))⟩]
      ⟨atSecond 3601, .get "ses_a", some (.error .notFound)⟩ countedTokens_fresh (by decide)
      (refreshesTold_first fun _ => SessionStep.noConfusion) rfl
      ⟨_, List.mem_cons_self, firstSession, rfl, rfl⟩ ⟨rfl, rfl⟩
    cases hfound

end Gatehouse.Proofs
