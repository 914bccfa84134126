import Gatehouse.Proofs.SessionRevival

/-!
# Refreshes of older copies

A refresh goes by the copy of a session that it is handed, and writes that back in place of whatever is
stored. Yet no update is lost by it. All copies under an identifier stem from one creation, the end of each
follows from the moment when it was last refreshed, and what is written was refreshed last of all. So the
end of a stored session never moves back, and nobody has been told of a later one.
-/

namespace Gatehouse.Proofs
open SessionPolicy

variable {p : SessionPolicy} {w : World} {now t : Instant} {s s' : Session} {id : String}
  {st st' : SessionStore} {text : Nat → Nat → String} {n n' : Nat} {event : SessionEvent}
  {events : List SessionEvent} {steps : List (Instant × SessionStep)} {readings : List Instant}

lemma told_cons : Told (event :: events) s ↔ told? event.answer = some s ∨ Told events s := by
  unfold Told
  simp only [List.mem_cons, exists_eq_or_imp]

lemma sessionRun_moments (p : SessionPolicy) (w : World) (steps : List (Instant × SessionStep)) :
    (sessionRun p w steps).2.map SessionEvent.moment = steps.map Prod.fst := by
  induction steps with
  | nil => rfl
  | cons last earlier ih => exact congrArg (last.1 :: ·) ih

lemma sessionRun_suffix (p : SessionPolicy) (w : World) (newer older : List (Instant × SessionStep)) :
    (sessionRun p w older).2 <:+ (sessionRun p w (newer ++ older)).2 := by
  induction newer with
  | nil => exact List.suffix_refl _
  | cons last newer ih => exact ih.trans (List.suffix_cons _ _)

lemma told_of_suffix {earlier : List SessionEvent} (h : earlier <:+ events) (hs : Told earlier s) :
    Told events s := by
  obtain ⟨event, hevent, htold⟩ := hs
  exact ⟨event, h.subset hevent, htold⟩

lemma refreshesTold_of_append {newer older : List (Instant × SessionStep)}
    (h : RefreshesTold p w (newer ++ older)) :
    RefreshesTold p w older := by
  induction newer with
  | nil => exact h
  | cons last newer ih => exact ih h.2

/-- Copies of one session differ at most in their ends, and in when they were last refreshed. -/
structure SameSession (s s' : Session) : Prop where
  id : s.id = s'.id
  userId : s.userId = s'.userId
  role : s.role = s'.role
  csrfToken : s.csrfToken = s'.csrfToken
  createdAt : s.createdAt = s'.createdAt

lemma sameSession_refl (s : Session) : SameSession s s := ⟨rfl, rfl, rfl, rfl, rfl⟩

lemma sameSession_symm (h : SameSession s s') : SameSession s' s :=
  ⟨h.id.symm, h.userId.symm, h.role.symm, h.csrfToken.symm, h.createdAt.symm⟩

/-- A session that was created and refreshed at readings of the clock, with the end that the policy then
gave it. -/
structure Dated (p : SessionPolicy) (readings : List Instant) (s : Session) : Prop where
  created : s.createdAt ∈ readings
  refreshed : s.lastRefreshedAt ∈ readings
  ends : p.cappedExpiry? s.createdAt s.lastRefreshedAt = some s.expiresAt

lemma dated_cons (h : Dated p readings s) : Dated p (now :: readings) s where
  created := List.mem_cons_of_mem now h.created
  refreshed := List.mem_cons_of_mem now h.refreshed
  ends := h.ends

/-- A store agrees with what has been told: what it holds has been told, and was refreshed last of all that
was told under its identifier. -/
structure Agrees (p : SessionPolicy) (text : Nat → Nat → String) (n : Nat) (events : List SessionEvent)
    (st : SessionStore) : Prop where
  dated : ∀ s, Told events s → Dated p (events.map SessionEvent.moment) s
  alike : ∀ s s', Told events s → Told events s' → s.id = s'.id → SameSession s s'
  issued : ∀ s, Told events s → ∃ k bytes, k < n ∧ s.id = "ses_" ++ text k bytes
  stored : ∀ id e, st.get? id = some e → e.session.id = id ∧ Told events e.session
  latest : ∀ id e s, st.get? id = some e → Told events s → s.id = id →
    s.lastRefreshedAt ≤ e.session.lastRefreshedAt

lemma agrees_empty (p : SessionPolicy) (text : Nat → Nat → String) (n : Nat) :
    Agrees p text n [] Table.empty := by
  have hnothing : ∀ s, ¬ Told [] s := by
    rintro s ⟨event, hevent, _⟩
    cases hevent
  exact ⟨fun s hs => absurd hs (hnothing s), fun s _ hs => absurd hs (hnothing s),
    fun s hs => absurd hs (hnothing s), fun id e he => (by cases he), fun id e s he => (by cases he)⟩

/-- Entries may go, and what was told may be told again. -/
lemma agrees_idle (h : Agrees p text n events st) (hn : n ≤ n')
    (hold : ∀ s, told? event.answer = some s → Told events s)
    (hst : ∀ id e, st'.get? id = some e → st.get? id = some e) : Agrees p text n' (event :: events) st' := by
  have htold : ∀ s, Told (event :: events) s → Told events s :=
    fun s hs => (told_cons.1 hs).elim (hold s) fun hs => hs
  refine ⟨fun s hs => dated_cons (h.dated s (htold s hs)),
    fun s s' hs hs' => h.alike s s' (htold s hs) (htold s' hs'),
    fun s hs => ?_, fun id e he => ?_, fun id e s he hs => h.latest id e s (hst id e he) (htold s hs)⟩
  · obtain ⟨k, bytes, hlt, hid⟩ := h.issued s (htold s hs)
    exact ⟨k, bytes, Nat.lt_of_lt_of_le hlt hn, hid⟩
  · obtain ⟨hid, hs⟩ := h.stored id e (hst id e he)
    exact ⟨hid, told_cons.2 (Or.inr hs)⟩

/-- A session may be written that was refreshed just now, if it is the same as all that was told under its
identifier. -/
lemma agrees_write {evictAt : Instant} (h : Agrees p text n events st) (hn : n ≤ n')
    (htold : told? event.answer = some s)
    (hdated : Dated p (event.moment :: events.map SessionEvent.moment) s)
    (hlast : s.lastRefreshedAt = event.moment)
    (hclock : ∀ r ∈ events.map SessionEvent.moment, r ≤ event.moment)
    (hsame : ∀ s', Told events s' → s'.id = s.id → SameSession s' s)
    (hissued : ∃ k bytes, k < n' ∧ s.id = "ses_" ++ text k bytes) :
    Agrees p text n' (event :: events) (st.insert s.id ⟨s, evictAt⟩) := by
  have hcases : ∀ s', Told (event :: events) s' → s' = s ∨ Told events s' := by
    intro s' hs'
    exact (told_cons.1 hs').imp_left fun hnew => Option.some.inj (hnew.symm.trans htold)
  have hbefore : ∀ s', Told (event :: events) s' → s'.lastRefreshedAt ≤ s.lastRefreshedAt := by
    intro s' hs'
    rcases hcases s' hs' with rfl | hs'
    · exact instant_le_refl _
    · rw [hlast]
      exact hclock _ (h.dated s' hs').refreshed
  refine ⟨fun s' hs' => ?_, fun s₁ s₂ hs₁ hs₂ hid => ?_, fun s' hs' => ?_, fun id e he => ?_,
    fun id e s' he hs' hid => ?_⟩
  · rcases hcases s' hs' with rfl | hs'
    · exact hdated
    · exact dated_cons (h.dated s' hs')
  · rcases hcases s₁ hs₁ with rfl | hs₁
    · rcases hcases s₂ hs₂ with rfl | hs₂
      · exact sameSession_refl _
      · exact sameSession_symm (hsame s₂ hs₂ hid.symm)
    · rcases hcases s₂ hs₂ with rfl | hs₂
      · exact hsame s₁ hs₁ hid
      · exact h.alike s₁ s₂ hs₁ hs₂ hid
  · rcases hcases s' hs' with rfl | hs'
    · exact hissued
    · obtain ⟨k, bytes, hlt, hid⟩ := h.issued s' hs'
      exact ⟨k, bytes, Nat.lt_of_lt_of_le hlt hn, hid⟩
  · rw [Table.get?_insert] at he
    split at he
    · rename_i hid
      cases he
      exact ⟨hid.symm, told_cons.2 (Or.inl htold)⟩
    · obtain ⟨hid, hs⟩ := h.stored id e he
      exact ⟨hid, told_cons.2 (Or.inr hs)⟩
  · rw [Table.get?_insert] at he
    split at he
    · cases he
      exact hbefore s' hs'
    · rename_i hne
      rcases hcases s' hs' with rfl | hs'
      · exact absurd hid.symm hne
      · exact h.latest id e s' he hs' hid

lemma get?_of_erase {e : StoredSession} {id' : String} (h : (st.erase id').get? id = some e) :
    st.get? id = some e := by
  rw [Table.get?_erase] at h
  split at h
  · cases h
  · exact h

lemma takeStep_agrees (h : Agrees p w.tokens.text w.tokens.issued events w.sessions)
    (hfresh : ∀ n bytes n' bytes', w.tokens.text n bytes = w.tokens.text n' bytes' → n = n')
    (hclock : ∀ r ∈ events.map SessionEvent.moment, r ≤ w.now) (step : SessionStep)
    (htold : ∀ s, step = .refresh s → Told events s) :
    Agrees p w.tokens.text (takeStep p w step).2.tokens.issued
      (⟨w.now, step, (takeStep p w step).1⟩ :: events) (takeStep p w step).2.sessions := by
  have hissued := (takeStep_tokens p w step).2.1
  cases step with
  | create userId role =>
    simp only [takeStep, replying] at hissued ⊢
    rcases create_cases p w userId role with hrun | ⟨expiresAt, evictAt, hexpiry, _, _, hrun⟩
    · rw [hrun] at hissued ⊢
      exact agrees_idle h hissued (fun s hs => by cases hs) fun id e he => he
    · rw [hrun] at hissued ⊢
      have hdated : Dated p (w.now :: events.map SessionEvent.moment)
          (newSession p w userId role expiresAt) :=
        ⟨List.mem_cons_self, List.mem_cons_self, hexpiry⟩
      refine agrees_write h hissued rfl hdated rfl hclock (fun s' hs' hid => ?_)
        ⟨_, _, Nat.lt_add_of_pos_right (by decide), rfl⟩
      -- an identifier that was told before has an earlier token
      obtain ⟨k, bytes, hlt, hid'⟩ := h.issued s' hs'
      rw [hid', newSession_id, nextSessionId, String.append_right_inj] at hid
      exact absurd (hfresh _ _ _ _ hid) (Nat.ne_of_lt hlt)
  | get id =>
    simp only [takeStep, replying] at hissued ⊢
    rcases get_cases p w id with hrun | hrun | ⟨id', hrun⟩ | ⟨e, he, hrun⟩
    · rw [hrun] at hissued ⊢
      exact agrees_idle h hissued (fun s hs => by cases hs) fun id e he => he
    · rw [hrun] at hissued ⊢
      exact agrees_idle h hissued (fun s hs => by cases hs) fun id e he => he
    · rw [hrun] at hissued ⊢
      exact agrees_idle h hissued (fun s hs => by cases hs) fun id e he => get?_of_erase he
    · rw [hrun] at hissued ⊢
      refine agrees_idle h hissued (fun s hs => ?_) fun id e he => he
      cases hs
      exact (h.stored id e he).2
  | refresh s =>
    have hs := htold s rfl
    simp only [takeStep, replying] at hissued ⊢
    rcases refresh_cases p w s with hrun | ⟨_, hrun⟩ | hrun | ⟨expiresAt, evictAt, hexpiry, _, _, hrun⟩
    · rw [hrun] at hissued ⊢
      exact agrees_idle h hissued (fun s hs => by cases hs) fun id e he => he
    · rw [hrun] at hissued ⊢
      exact agrees_idle h hissued (fun s hs => by cases hs) fun id e he => get?_of_erase he
    · rw [hrun] at hissued ⊢
      refine agrees_idle h hissued (fun s' hs' => ?_) fun id e he => he
      cases hs'
      exact hs
    · rw [hrun] at hissued ⊢
      have hdated : Dated p (w.now :: events.map SessionEvent.moment)
          { s with expiresAt, lastRefreshedAt := w.now } :=
        ⟨List.mem_cons_of_mem w.now (h.dated s hs).created, List.mem_cons_self, hexpiry⟩
      refine agrees_write h hissued rfl hdated rfl hclock (fun s' hs' hid => ?_) (h.issued s hs)
      have hsame := h.alike s' s hs' hs hid
      exact ⟨hsame.id, hsame.userId, hsame.role, hsame.csrfToken, hsame.createdAt⟩
  | delete id => exact agrees_idle h hissued (fun s hs => by cases hs) fun id e he => get?_of_erase he
  | purge =>
    refine agrees_idle h hissued (fun s hs => by cases hs) fun id e he => ?_
    exact (Option.filter_eq_some_iff.1 ((SessionStore.get?_purgeExpired w.sessions w.now id).symm.trans he)).1

lemma sessionRun_agrees
    (hfresh : ∀ n bytes n' bytes', w.tokens.text n bytes = w.tokens.text n' bytes' → n = n')
    (hclock : Forward (steps.map Prod.fst))
    (htold : RefreshesTold p { w with sessions := Table.empty } steps) :
    let run := sessionRun p { w with sessions := Table.empty } steps
    Agrees p w.tokens.text run.1.tokens.issued run.2 run.1.sessions := by
  induction steps with
  | nil => exact agrees_empty p _ _
  | cons last earlier ih =>
    obtain ⟨hlater, hearlier⟩ := List.pairwise_cons.1 hclock
    have hagrees := ih hearlier htold.2
    have htext := (sessionRun_ids p { w with sessions := Table.empty } earlier).1
    rw [← sessionRun_moments p { w with sessions := Table.empty } earlier] at hlater
    dsimp only at hagrees htext ⊢
    rw [← htext] at hagrees hfresh ⊢
    exact takeStep_agrees
      (w := { (sessionRun p { w with sessions := Table.empty } earlier).1 with now := last.1 })
      hagrees hfresh hlater last.2 htold.1

lemma add?_mono {d : Int} {u v : Instant} (hnow : now.leap = false) (ht : t.leap = false) (hle : now ≤ t)
    (hu : now.add? d = some u) (hv : t.add? d = some v) : u ≤ v := by
  obtain ⟨hnanos, hleap⟩ := add?_ordinary hnow hu
  obtain ⟨hnanos', hleap'⟩ := add?_ordinary ht hv
  rw [Instant.le_iff_nanos_le hnow ht] at hle
  rw [Instant.le_iff_nanos_le hleap hleap']
  omega

/-- Outside of leap seconds a later refresh gives no earlier end. -/
lemma cappedExpiry?_mono {createdAt ends ends' : Instant} (hnow : now.leap = false) (ht : t.leap = false)
    (hle : now ≤ t) (h : p.cappedExpiry? createdAt now = some ends)
    (h' : p.cappedExpiry? createdAt t = some ends') : ends ≤ ends' := by
  obtain ⟨sliding, hsliding, hends⟩ := cappedExpiry?_eq_some h
  obtain ⟨sliding', hsliding', hends'⟩ := cappedExpiry?_eq_some h'
  have hslides : sliding ≤ sliding' := add?_mono hnow ht hle hsliding hsliding'
  by_cases hmax : p.maxAge = 0
  · rw [if_pos hmax] at hends hends'
    rw [hends, hends']
    exact hslides
  · rw [if_neg hmax] at hends hends'
    obtain ⟨limit, hlimit, hends⟩ := hends
    obtain ⟨limit', hlimit', hends'⟩ := hends'
    obtain rfl : limit = limit' := Option.some.inj (hlimit.symm.trans hlimit')
    rw [hends, hends']
    exact le_earlier (instant_le_trans (earlier_le_left sliding limit) hslides)
      (earlier_le_right sliding limit)

lemma expiresAt_le (hordinary : ∀ r ∈ readings, r.leap = false) (hs : Dated p readings s)
    (hs' : Dated p readings s') (hsame : SameSession s s')
    (hle : s.lastRefreshedAt ≤ s'.lastRefreshedAt) : s.expiresAt ≤ s'.expiresAt := by
  have hends := hs.ends
  rw [hsame.createdAt] at hends
  exact cappedExpiry?_mono (hordinary _ hs.refreshed) (hordinary _ hs'.refreshed) hle hends hs'.ends

lemma evictAt_le {evictAt evictAt' : Instant} (hordinary : ∀ r ∈ readings, r.leap = false)
    (hs : Dated p readings s) (hs' : Dated p readings s') (hlast : s.lastRefreshedAt ≤ s'.lastRefreshedAt)
    (hends : s.expiresAt ≤ s'.expiresAt) (hevict : evictionOf? s = some evictAt)
    (hevict' : evictionOf? s' = some evictAt') : evictAt ≤ evictAt' := by
  have hplain := hordinary _ hs.refreshed
  have hplain' := hordinary _ hs'.refreshed
  have hendsPlain := cappedExpiry?_ordinary (hordinary _ hs.created) hplain hs.ends
  have hendsPlain' := cappedExpiry?_ordinary (hordinary _ hs'.created) hplain' hs'.ends
  obtain ⟨hleap, hnanos⟩ := evictionOf?_ordinary hplain hendsPlain hevict
  obtain ⟨hleap', hnanos'⟩ := evictionOf?_ordinary hplain' hendsPlain' hevict'
  rw [Instant.le_iff_nanos_le hplain hplain'] at hlast
  rw [Instant.le_iff_nanos_le hendsPlain hendsPlain'] at hends
  rw [Instant.le_iff_nanos_le hleap hleap']
  omega

/-- What is stored outdoes all that was told under its identifier. -/
lemma told_le_stored {e : StoredSession} (h : Agrees p text n events st) (he : st.get? id = some e)
    (hs : Told events s) (hid : s.id = id) :
    SameSession s e.session ∧ s.lastRefreshedAt ≤ e.session.lastRefreshedAt ∧
      ((∀ r ∈ events.map SessionEvent.moment, r.leap = false) → s.expiresAt ≤ e.session.expiresAt) := by
  obtain ⟨hown, hstored⟩ := h.stored id e he
  have hsame := h.alike s e.session hs hstored (hid.trans hown.symm)
  have hlast := h.latest id e s he hs hid
  exact ⟨hsame, hlast, fun hordinary => expiresAt_le hordinary (h.dated s hs) (h.dated _ hstored) hsame hlast⟩

/-- However old the copies are that refreshes are handed, whatever is stored under an identifier is the
session that was stored there at any time before, and that has been told of at all; it was refreshed no
earlier than any of these. Outside of leap seconds it neither ends nor goes from the store earlier than when
it was stored before, and nobody has been told of a later end. -/
theorem stale_refreshes_lose_nothing (p : SessionPolicy) (w : World)
    (newer older : List (Instant × SessionStep)) (id : String) (e' : StoredSession)
    (hfresh : ∀ n bytes n' bytes', w.tokens.text n bytes = w.tokens.text n' bytes' → n = n')
    (hclock : Forward ((newer ++ older).map Prod.fst))
    (htold : RefreshesTold p { w with sessions := Table.empty } (newer ++ older))
    (hstored : (sessionRun p { w with sessions := Table.empty } (newer ++ older)).1.sessions.get? id =
      some e') :
    (∀ e, (sessionRun p { w with sessions := Table.empty } older).1.sessions.get? id = some e →
      SameSession e.session e'.session ∧ e.session.lastRefreshedAt ≤ e'.session.lastRefreshedAt ∧
        ((∀ r ∈ (newer ++ older).map Prod.fst, r.leap = false) →
          e.session.expiresAt ≤ e'.session.expiresAt ∧ e.evictAt ≤ e'.evictAt)) ∧
      ∀ s, Told (sessionRun p { w with sessions := Table.empty } (newer ++ older)).2 s → s.id = id →
        SameSession s e'.session ∧ s.lastRefreshedAt ≤ e'.session.lastRefreshedAt ∧
          ((∀ r ∈ (newer ++ older).map Prod.fst, r.leap = false) → s.expiresAt ≤ e'.session.expiresAt) := by
  have hempty : StoreFiled p ({ w with sessions := Table.empty } : World).sessions :=
    fun id e he => by cases he
  have hagrees := sessionRun_agrees hfresh hclock htold
  have hbefore := sessionRun_agrees hfresh (List.pairwise_append.1 (List.map_append ▸ hclock)).2.1
    (refreshesTold_of_append htold)
  have hevict := ((sessionRun_filed hempty (newer ++ older)).1 id e' hstored).evicted
  rw [← sessionRun_moments p { w with sessions := Table.empty }]
  refine ⟨fun e he => ?_, fun s hs hid => told_le_stored hagrees hstored hs hid⟩
  obtain ⟨hid, hearlier⟩ := hbefore.stored id e he
  have htold' := told_of_suffix (sessionRun_suffix p { w with sessions := Table.empty } newer older) hearlier
  obtain ⟨hsame, hlast, hends⟩ := told_le_stored hagrees hstored htold' hid
  refine ⟨hsame, hlast, fun hordinary => ⟨hends hordinary, ?_⟩⟩
  exact evictAt_le hordinary (hagrees.dated _ htold') (hagrees.dated _ (hagrees.stored id e' hstored).2) hlast
    (hends hordinary) ((sessionRun_filed hempty older).1 id e he).evicted hevict

/-- A session is created, and refreshed twice with the copy of it that was handed out at first. -/
def racingSteps : List (Instant × SessionStep) :=
  [(atSecond 5, .refresh firstSession), (atSecond 2, .refresh firstSession), (atSecond 0, .create "u" "r")]

def racedSession : Session :=
  { firstSession with lastRefreshedAt := atSecond 5, expiresAt := atSecond 3605 }

theorem stale_refreshes_lose_nothing_racing :
    (sessionRun hourPolicy revivalWorld (racingSteps.drop 1)).1.sessions.get? "ses_a" =
        some ⟨revivedSession, atSecond 3602⟩ ∧
      (sessionRun hourPolicy revivalWorld racingSteps).1.sessions.get? "ses_a" =
        some ⟨racedSession, atSecond 3605⟩ ∧
      SameSession revivedSession racedSession ∧ revivedSession.expiresAt ≤ racedSession.expiresAt := by
  have hearlier : (sessionRun hourPolicy revivalWorld (racingSteps.drop 1)).1.sessions.get? "ses_a" =
      some ⟨revivedSession, atSecond 3602⟩ := by decide +kernel
  have hlater : (sessionRun hourPolicy revivalWorld racingSteps).1.sessions.get? "ses_a" =
      some ⟨racedSession, atSecond 3605⟩ := by decide +kernel
  have hcreated : ⟨atSecond 0, .create "u" "r", some (.ok (.created firstSession))⟩ ∈
      (sessionRun hourPolicy revivalWorld (racingSteps.drop 2)).2 := List.mem_cons_self
  have htold : RefreshesTold hourPolicy revivalWorld racingSteps := by
    refine ⟨fun s hs => ?_, fun s hs => ?_, fun s hs => ?_, trivial⟩
    · cases hs
      exact ⟨_, List.mem_cons_of_mem _ hcreated, rfl⟩
    · cases hs
      exact ⟨_, hcreated, rfl⟩
    · cases hs
  obtain ⟨hkept, _⟩ :=
    stale_refreshes_lose_nothing hourPolicy revivalWorld (racingSteps.take 1) (racingSteps.drop 1)
    "ses_a" ⟨racedSession, atSecond 3605⟩ countedTokens_fresh (by decide) htold hlater
  obtain ⟨hsame, _, hends⟩ := hkept ⟨revivedSession, atSecond 3602⟩ hearlier
  exact ⟨hearlier, hlater, hsame, (hends (by decide)).1⟩

end Gatehouse.Proofs
