import Gatehouse.Proofs.KeyHistory
import Gatehouse.Proofs.KeyListing
import Mathlib.Data.List.Pairwise

/-!
# Owners of keys are kept apart

What an owner of keys is answered depends on that owner's own operations and on nobody else's. The
operations of others leave the owner's keys alone, and an operation of the owner's looks at no others: two
stores that agree on the owner's keys answer it alike and agree again. So the others can be taken out of a
run without a trace.
-/

namespace Gatehouse.Proofs

variable {hash : String → String} {w w₁ w₂ : World} {st st' : ApiKeyStore} {k : ApiKey}
  {userId id digest : String} {step : KeyStep}

/-- A step with the source that its tokens are drawn from. -/
abbrev DrawnStep := TokenSource × KeyStep

def takeDrawnStep (hash : String → String) (w : World) (step : DrawnStep) : KeyAnswer × World :=
  takeKeyStep hash { w with tokens := step.1 } step.2

def drawnRun (hash : String → String) :
    World → List (Instant × DrawnStep) → World × List (Event DrawnStep KeyAnswer) :=
  worldRun (takeDrawnStep hash)

/-- The identifier that a step draws for a new key. -/
def madeId? : DrawnStep → Option String
  | (source, .create _ _ _) => some ("key_" ++ source.text (source.issued + 1) 12)
  | _ => none

/-- The hash of the token that a step draws for a new key. -/
def madeHash? (hash : String → String) : DrawnStep → Option String
  | (source, .create _ _ _) => some (hash ("sk_" ++ source.text source.issued 32))
  | _ => none

/-- No two steps draw the same identifier, or tokens of the same hash. -/
structure Distinct (hash : String → String) (steps : List (Instant × DrawnStep)) : Prop where
  ids : (steps.filterMap fun x => madeId? x.2).Nodup
  hashes : (steps.filterMap fun x => madeHash? hash x.2).Nodup

/-- The user who manages keys with a step. -/
def asker? : KeyStep → Option String
  | .create owner _ _ => some owner.userId
  | .list owner => some owner.userId
  | .revoke owner _ => some owner.userId
  | .authenticate _ _ => none

/-- The hash that is looked up to authenticate. -/
def triedHash? (hash : String → String) : KeyStep → Option String
  | .authenticate token _ => some (hash (Text.trim token))
  | _ => none

/-- The hashes of the tokens that a user is given in the course of a run. -/
def issuedTo (hash : String → String) (userId : String) (steps : List (Instant × DrawnStep)) : List String :=
  steps.filterMap fun x => if asker? x.2.2 = some userId then madeHash? hash x.2 else none

/-- A step is a user's own, or it tries a token that the user is given in the course of a run. -/
def Concerns (hash : String → String) (userId : String) (steps : List (Instant × DrawnStep))
    (step : DrawnStep) :
    Prop :=
  asker? step.2 = some userId ∨ ∃ digest ∈ issuedTo hash userId steps, triedHash? hash step.2 = some digest

instance (hash : String → String) (userId : String) (steps : List (Instant × DrawnStep)) :
    DecidablePred (Concerns hash userId steps) :=
  fun _ => inferInstanceAs (Decidable (_ ∨ _))

/-- What a step may leave of the keys. -/
inductive KeysAfter (hash : String → String) (w : World) : KeyStep → ApiKeyStore → Prop
  | same (step : KeyStep) : KeysAfter hash w step w.keys
  | made {owner : Principal} {name text : String} {scope : Scope} {keys : ApiKeyStore}
    (hinsert : w.keys.insert (nextKey hash w owner name scope) = .ok keys) :
    KeysAfter hash w (.create owner name text) keys
  | revoked {owner : Principal} {id : String} {k : ApiKey}
    (hk : ownKey? w.keys owner.userId (Text.trim id) = some k) :
    KeysAfter hash w (.revoke owner id) (w.keys.revoke (Text.trim id) w.now).2

lemma keys_after (hash : String → String) (w : World) (step : KeyStep) :
    KeysAfter hash w step (takeKeyStep hash w step).2.keys := by
  cases step with
  | create owner name text =>
    simp only [takeKeyStep, replying, perform_createKey]
    cases Scope.ofText text with
    | error e => exact .same _
    | ok scope =>
      simp only
      cases hinsert : w.keys.insert (nextKey hash w owner name scope) with
      | error e => exact .same _
      | ok keys => exact .made hinsert
  | list owner => exact .same _
  | revoke owner id =>
    simp only [takeKeyStep, replying, perform_revokeById]
    split
    · exact .same _
    · cases hk : (w.keys.get? (Text.trim id)).filter fun k => k.userId = owner.userId with
      | none => exact .same _
      | some k =>
        simp only
        split
        · exact .same _
        · exact .revoked hk
  | authenticate token m =>
    simp only [takeKeyStep, replying, perform_authenticateKey_snd]
    exact .same _

/-- Every key on file was made by a step of a run, with the identifier and the token that this step has
drawn. -/
structure Traced (hash : String → String) (steps : List (Instant × DrawnStep)) (st : ApiKeyStore) : Prop where
  indexed : Indexed st
  made : ∀ id k, st.get? id = some k → ∃ x ∈ steps,
    asker? x.2.2 = some k.userId ∧ madeId? x.2 = some id ∧ madeHash? hash x.2 = some k.tokenHash

lemma traced_mono {steps steps' : List (Instant × DrawnStep)} (h : Traced hash steps st)
    (hsubset : steps ⊆ steps') :
    Traced hash steps' st where
  indexed := h.indexed
  made := fun id k hk =>
    have ⟨x, hx, hmade⟩ := h.made id k hk
    ⟨x, hsubset hx, hmade⟩

lemma traced_step {steps : List (Instant × DrawnStep)} (h : Traced hash steps w.keys) (t : Instant)
    (step : DrawnStep) :
    Traced hash ((t, step) :: steps) (takeDrawnStep hash { w with now := t } step).2.keys := by
  obtain ⟨source, step⟩ := step
  have hbefore : Traced hash ((t, source, step) :: steps) w.keys := traced_mono h (List.subset_cons_self _ _)
  have hafter := keys_after hash { w with now := t, tokens := source } step
  unfold takeDrawnStep
  generalize (takeKeyStep hash { w with now := t, tokens := source } step).2.keys = keys at hafter ⊢
  cases hafter with
  | same step => exact hbefore
  | made hinsert =>
    refine ⟨indexed_insert h.indexed hinsert, fun id k hk => ?_⟩
    rw [get?_of_insert hinsert] at hk
    split at hk
    · rename_i hid
      cases hk
      rw [hid]
      exact ⟨_, List.mem_cons_self, rfl, rfl, rfl⟩
    · exact hbefore.made id k hk
  | @revoked owner named k hk =>
    refine ⟨indexed_revoke h.indexed _ t, fun id k' hk' => ?_⟩
    rw [ApiKeyStore.get?_revoke] at hk'
    split at hk'
    · rename_i hid
      obtain ⟨k, hk, rfl⟩ := Option.map_eq_some_iff.1 hk'
      rw [hid]
      exact hbefore.made _ k hk
    · exact hbefore.made id k' hk'

lemma drawnRun_traced (hash : String → String) (w : World) (steps : List (Instant × DrawnStep)) :
    Traced hash steps (drawnRun hash { w with keys := ApiKeyStore.empty } steps).1.keys := by
  induction steps with
  | nil => exact ⟨indexed_empty, fun id k hk => by cases hk⟩
  | cons last earlier ih => exact traced_step ih last.1 last.2

lemma ownKey?_of_insert (h : st.insert k = .ok st') (userId id : String) :
    ownKey? st' userId id =
      if id = k.id then if k.userId = userId then some k else none else ownKey? st userId id := by
  unfold ownKey?
  rw [get?_of_insert h]
  by_cases hid : id = k.id
  · rw [if_pos hid, if_pos hid, Option.filter_some]
    simp only [decide_eq_true_eq]
  · rw [if_neg hid, if_neg hid]

lemma ownKey?_revoke (st : ApiKeyStore) (userId id id' : String) (moment : Instant) :
    ownKey? (st.revoke id moment).2 userId id' =
      if id' = id then (ownKey? st userId id).map fun k => k.revoke moment else ownKey? st userId id' := by
  unfold ownKey?
  rw [ApiKeyStore.get?_revoke]
  by_cases hid : id' = id
  · rw [if_pos hid, if_pos hid, Option.filter_map]
    rfl
  · rw [if_neg hid, if_neg hid]

/-- What others do leaves a user's keys alone. -/
lemma ownKey?_of_other (hother : asker? step ≠ some userId) (id : String) :
    ownKey? (takeKeyStep hash w step).2.keys userId id = ownKey? w.keys userId id := by
  have hafter := keys_after hash w step
  generalize (takeKeyStep hash w step).2.keys = keys at hafter ⊢
  cases hafter with
  | same step => rfl
  | @made owner name text scope keys hinsert =>
    obtain ⟨hnew, _, _⟩ := ApiKeyStore.insert_eq_ok_iff.1 hinsert
    have howner : (nextKey hash w owner name scope).userId ≠ userId := fun heq => hother (congrArg some heq)
    rw [ownKey?_of_insert hinsert, if_neg howner]
    split
    · rename_i hid
      rw [hid]
      exact (congrArg (Option.filter _) hnew).symm
    · rfl
  | @revoked owner named k hk =>
    obtain ⟨hk, howner⟩ := ownKey?_eq_some_iff.1 hk
    rw [ownKey?_revoke]
    split
    · rename_i hid
      have hnone : ownKey? w.keys userId (Text.trim named) = none := by
        rw [ownKey?, hk, Option.filter_some, if_neg]
        intro heq
        exact hother (congrArg some (howner.symm.trans (of_decide_eq_true heq)))
      rw [hid, hnone]
      rfl
    · rfl

/-- Two worlds that show a user the same keys, at one reading of the clock and with the same tokens to come.
-/
structure Twins (userId : String) (w₁ w₂ : World) : Prop where
  now : w₁.now = w₂.now
  tokens : w₁.tokens = w₂.tokens
  indexed₁ : Indexed w₁.keys
  indexed₂ : Indexed w₂.keys
  own : ∀ id, ownKey? w₁.keys userId id = ownKey? w₂.keys userId id

/-- A step is answered alike in two worlds, and leaves a user the same keys in both. -/
def Agree (hash : String → String) (userId : String) (w₁ w₂ : World) (step : KeyStep) : Prop :=
  (takeKeyStep hash w₁ step).1 = (takeKeyStep hash w₂ step).1 ∧
    ∀ id, ownKey? (takeKeyStep hash w₁ step).2.keys userId id =
      ownKey? (takeKeyStep hash w₂ step).2.keys userId id

/-- The key that is made now can be filed. -/
def Fresh (hash : String → String) (w : World) : Prop :=
  w.keys.get? ("key_" ++ w.tokens.text (w.tokens.issued + 1) 12) = none ∧
    ∀ id k, w.keys.get? id = some k → k.tokenHash ≠ hash (nextToken w)

lemma insert_of_fresh (h : Fresh hash w) (hindexed : Indexed w.keys) (owner : Principal) (name : String)
    (scope : Scope) : ∃ keys, w.keys.insert (nextKey hash w owner name scope) = .ok keys := by
  refine ⟨_, ApiKeyStore.insert_eq_ok_iff.2 ⟨h.1, ?_, rfl⟩⟩
  by_contra htaken
  obtain ⟨id, hid⟩ := Option.ne_none_iff_exists'.1 htaken
  obtain ⟨k, hk, hhash⟩ := hindexed.leads _ id hid
  exact h.2 id k hk hhash

lemma agree_create (h : Twins userId w₁ w₂) (h₁ : Fresh hash w₁) (h₂ : Fresh hash w₂) {owner : Principal}
    (name text : String) : Agree hash userId w₁ w₂ (.create owner name text) := by
  simp only [Agree, takeKeyStep, replying, perform_createKey]
  cases Scope.ofText text with
  | error e => exact ⟨rfl, h.own⟩
  | ok scope =>
    have hkey : nextKey hash w₁ owner name scope = nextKey hash w₂ owner name scope := by
      simp only [nextKey, nextToken, h.now, h.tokens]
    have htoken : nextToken w₁ = nextToken w₂ := by
      simp only [nextToken, h.tokens]
    obtain ⟨keys₁, hinsert₁⟩ := insert_of_fresh h₁ h.indexed₁ owner name scope
    obtain ⟨keys₂, hinsert₂⟩ := insert_of_fresh h₂ h.indexed₂ owner name scope
    simp only [hinsert₁, hinsert₂]
    rw [hkey] at hinsert₁
    refine ⟨by rw [hkey, htoken], fun id => ?_⟩
    rw [ownKey?_of_insert hinsert₁, ownKey?_of_insert hinsert₂, h.own]

lemma agree_list (h : Twins userId w₁ w₂) {owner : Principal} (howner : owner.userId = userId) :
    Agree hash userId w₁ w₂ (.list owner) := by
  simp only [Agree, takeKeyStep, replying, perform_listKeys]
  rw [howner, listByUser_eq h.indexed₁ h.indexed₂ h.own]
  exact ⟨rfl, h.own⟩

lemma agree_revoke (h : Twins userId w₁ w₂) {owner : Principal} (howner : owner.userId = userId)
    (id : String) :
    Agree hash userId w₁ w₂ (.revoke owner id) := by
  have hfound : ((w₁.keys.get? (Text.trim id)).filter fun k => k.userId = owner.userId) =
      (w₂.keys.get? (Text.trim id)).filter fun k => k.userId = owner.userId := by
    rw [howner]
    exact h.own (Text.trim id)
  simp only [Agree, takeKeyStep, replying, perform_revokeById, hfound]
  split
  · exact ⟨rfl, h.own⟩
  split
  · exact ⟨rfl, h.own⟩
  split
  · exact ⟨rfl, h.own⟩
  · refine ⟨rfl, fun id' => ?_⟩
    simp only
    rw [ownKey?_revoke, ownKey?_revoke, h.own, h.own, h.now]

lemma agree_authenticate (h : Twins userId w₁ w₂) {token : String} (m : Http.Method)
    (hown₁ : ∀ k, w₁.keys.findByHash? (hash (Text.trim token)) = some k → k.userId = userId)
    (hown₂ : ∀ k, w₂.keys.findByHash? (hash (Text.trim token)) = some k → k.userId = userId) :
    Agree hash userId w₁ w₂ (.authenticate token m) := by
  have hfound : w₁.keys.findByHash? (hash (Text.trim token)) =
      w₂.keys.findByHash? (hash (Text.trim token)) := by
    refine Option.ext fun k => ?_
    have hiff : ∀ {w : World}, Indexed w.keys →
        (∀ k, w.keys.findByHash? (hash (Text.trim token)) = some k → k.userId = userId) →
        (w.keys.findByHash? (hash (Text.trim token)) = some k ↔
          ownKey? w.keys userId k.id = some k ∧ k.tokenHash = hash (Text.trim token)) := by
      intro w hindexed hown
      rw [ownKey?_eq_some_iff, and_right_comm, ← findByHash?_eq_some_iff hindexed]
      exact ⟨fun hk => ⟨hk, hown k hk⟩, And.left⟩
    rw [hiff h.indexed₁ hown₁, hiff h.indexed₂ hown₂, h.own]
  unfold Agree
  refine ⟨?_, fun id => ?_⟩
  · simp only [takeKeyStep, replying, perform_authenticateKey, hfound]
    split
    · rfl
    split
    · rfl
    split <;> rfl
  · simp only [takeKeyStep, replying, perform_authenticateKey_snd]
    exact h.own id

variable {all earlier earlier' : List (Instant × DrawnStep)} {t : Instant} {source : TokenSource}

lemma filterMap_unique {α β : Type} {f : α → Option β} {l : List α} {x y : α} {b : β}
    (h : (l.filterMap f).Nodup) (hx : x ∈ l) (hy : y ∈ l) (hfx : f x = some b)
    (hfy : f y = some b) : x = y := by
  by_contra hne
  have hsymm : Std.Symm fun x y => ∀ b, f x = some b → ∀ b', f y = some b' → b ≠ b' :=
    ⟨fun x y hxy b hy b' hx => (hxy b' hx b hy).symm⟩
  exact (List.pairwise_filterMap.1 h).forall hx hy hne b hfx b hfy rfl

lemma distinct_suffix (h : Distinct hash all) (hsuffix : earlier <:+ all) : Distinct hash earlier where
  ids := h.ids.sublist (hsuffix.sublist.filterMap _)
  hashes := h.hashes.sublist (hsuffix.sublist.filterMap _)

lemma fresh_of_distinct {owner : Principal} {name text : String}
    (hdistinct : Distinct hash ((t, source, .create owner name text) :: earlier))
    (h : Traced hash earlier w.keys) :
    Fresh hash { w with now := t, tokens := source } := by
  obtain ⟨hids, hhashes⟩ := hdistinct
  simp only [List.filterMap_cons, madeId?, madeHash?, List.nodup_cons] at hids hhashes
  refine ⟨?_, fun id k hk heq => ?_⟩
  · by_contra htaken
    obtain ⟨k, hk⟩ := Option.ne_none_iff_exists'.1 htaken
    obtain ⟨x, hx, _, hid, _⟩ := h.made _ k hk
    exact hids.1 (List.mem_filterMap.2 ⟨x, hx, hid⟩)
  · obtain ⟨x, hx, _, _, hhash⟩ := h.made id k hk
    exact hhashes.1 (List.mem_filterMap.2 ⟨x, hx, heq ▸ hhash⟩)

/-- A token that a user is given opens no key but one of this user's. -/
lemma owner_of_issued (hdistinct : Distinct hash all) (h : Traced hash all st)
    (hissued : digest ∈ issuedTo hash userId all) (hfound : st.findByHash? digest = some k) :
    k.userId = userId := by
  obtain ⟨hk, hdigest⟩ := (findByHash?_eq_some_iff h.indexed).1 hfound
  obtain ⟨x, hx, hasker, _, hmade⟩ := h.made k.id k hk
  obtain ⟨y, hy, hgiven⟩ := List.mem_filterMap.1 hissued
  split at hgiven
  · rename_i howner
    rw [hdigest] at hmade
    rw [filterMap_unique hdistinct.hashes hx hy hmade hgiven, howner] at hasker
    exact (Option.some.inj hasker).symm
  · cases hgiven

lemma agree_step {step : KeyStep} (hdistinct : Distinct hash all)
    (hsuffix : (t, source, step) :: earlier <:+ all) (h₁ : Traced hash earlier w₁.keys)
    (h₂ : Traced hash earlier w₂.keys) (hown : ∀ id, ownKey? w₁.keys userId id = ownKey? w₂.keys userId id)
    (hconcerns : Concerns hash userId all (source, step)) :
    Agree hash userId { w₁ with now := t, tokens := source } { w₂ with now := t, tokens := source } step := by
  have htwins : Twins userId { w₁ with now := t, tokens := source } { w₂ with now := t, tokens := source } :=
    ⟨rfl, rfl, h₁.indexed, h₂.indexed, hown⟩
  have hsubset : earlier ⊆ all := fun x hx => hsuffix.subset (List.mem_cons_of_mem _ hx)
  cases step with
  | create owner name text =>
    have hlocal := distinct_suffix hdistinct hsuffix
    exact agree_create htwins (fresh_of_distinct hlocal h₁) (fresh_of_distinct hlocal h₂) name text
  | list owner =>
    rcases hconcerns with howner | ⟨_, _, htried⟩
    · exact agree_list htwins (Option.some.inj howner)
    · cases htried
  | revoke owner id =>
    rcases hconcerns with howner | ⟨_, _, htried⟩
    · exact agree_revoke htwins (Option.some.inj howner) id
    · cases htried
  | authenticate token m =>
    rcases hconcerns with howner | ⟨digest, hissued, htried⟩
    · cases howner
    · cases htried
      exact agree_authenticate htwins m
        (fun k hk => owner_of_issued hdistinct (traced_mono h₁ hsubset) hissued hk)
        (fun k hk => owner_of_issued hdistinct (traced_mono h₂ hsubset) hissued hk)

/-! ### Runs with and without the others -/

/-- What a user sees of a run: the user's keys at its end, and the answers to the steps that concern the
user. -/
def seenBy (hash : String → String) (userId : String) (all : List (Instant × DrawnStep))
    (run : World × List (Event DrawnStep KeyAnswer)) :
    (String → Option ApiKey) × List (Event DrawnStep KeyAnswer) :=
  (ownKey? run.1.keys userId, run.2.filter fun event => Concerns hash userId all event.step)

lemma seenBy_other {step : DrawnStep} (hother : ¬ Concerns hash userId all step) :
    seenBy hash userId all (drawnRun hash w ((t, step) :: earlier)) =
      seenBy hash userId all (drawnRun hash w earlier) := by
  refine Prod.ext (funext fun id => ownKey?_of_other (fun hasker => hother (Or.inl hasker)) id) ?_
  unfold seenBy drawnRun
  rw [worldRun, List.filter_cons_of_neg (by simpa using hother)]

lemma seenBy_own {step : KeyStep} (hconcerns : Concerns hash userId all (source, step))
    (hseen : seenBy hash userId all (drawnRun hash w earlier) =
      seenBy hash userId all (drawnRun hash w earlier'))
    (hagree : Agree hash userId { (drawnRun hash w earlier).1 with now := t, tokens := source }
      { (drawnRun hash w earlier').1 with now := t, tokens := source } step) :
    seenBy hash userId all (drawnRun hash w ((t, source, step) :: earlier)) =
      seenBy hash userId all (drawnRun hash w ((t, source, step) :: earlier')) := by
  obtain ⟨hanswer, hown⟩ := hagree
  refine Prod.ext (funext hown) ?_
  unfold seenBy drawnRun worldRun
  simp only
  rw [List.filter_cons_of_pos (by simpa using hconcerns), List.filter_cons_of_pos (by simpa using hconcerns)]
  exact List.cons_eq_cons.2 ⟨congrArg _ hanswer, congrArg Prod.snd hseen⟩

lemma seenBy_kept (hash : String → String) (w : World) (userId : String) {kept : Instant × DrawnStep → Bool}
    (hdistinct : Distinct hash all) (hkept : ∀ x ∈ all, Concerns hash userId all x.2 → kept x = true)
    (earlier : List (Instant × DrawnStep)) (hsuffix : earlier <:+ all) :
    seenBy hash userId all (drawnRun hash { w with keys := ApiKeyStore.empty } earlier) =
      seenBy hash userId all (drawnRun hash { w with keys := ApiKeyStore.empty } (earlier.filter kept)) := by
  induction earlier with
  | nil => rfl
  | cons last earlier ih =>
    obtain ⟨t, source, step⟩ := last
    have hbefore := ih ((List.suffix_cons _ _).trans hsuffix)
    by_cases hconcerns : Concerns hash userId all (source, step)
    · have htraced := drawnRun_traced hash w (earlier.filter kept)
      rw [List.filter_cons_of_pos (hkept _ (hsuffix.subset List.mem_cons_self) hconcerns)]
      exact seenBy_own hconcerns hbefore (agree_step hdistinct hsuffix (drawnRun_traced hash w earlier)
        (traced_mono htraced (List.filter_subset_self _)) (congrFun (congrArg Prod.fst hbefore)) hconcerns)
    · rw [seenBy_other hconcerns, hbefore]
      cases hkeep : kept (t, source, step) with
      | true => rw [List.filter_cons_of_pos hkeep, seenBy_other hconcerns]
      | false => rw [List.filter_cons_of_neg (by simp [hkeep])]

lemma id_of_traced (h : Traced hash all st) (hk : st.get? id = some k) : id ≠ "" := by
  obtain ⟨⟨_, source, step⟩, _, _, hid, _⟩ := h.made id k hk
  cases step with
  | create owner name text =>
    cases hid
    intro hempty
    have hchars := congrArg String.toList hempty
    simp at hchars
  | _ => cases hid

lemma revoke_foreign {owner : Principal} (hnamed : Text.trim id ≠ "")
    (hforeign : ∀ k, w.keys.get? (Text.trim id) = some k → k.userId ≠ owner.userId) :
    w.perform (ApiKey.revokeById owner id).run = (some (.error (.notFound "api key not found")), w) := by
  have hnone : ((w.keys.get? (Text.trim id)).filter fun k => k.userId = owner.userId) = none := by
    rw [Option.filter_eq_none_iff]
    exact fun k hk => by simpa using hforeign k hk
  rw [perform_revokeById, if_neg hnamed, hnone]

/-- In every run of key operations in which no two draw the same identifier or tokens of the same hash, take
out any operations that neither are a user's own nor try a token that this user is given in the course of
the run. What is left of the run is answered to this user just as before: whatever the user makes, lists and
revokes, and whatever is tried with the user's tokens. At the end of every such run, to revoke a key of
somebody else's is answered just as to revoke one that is not there, and it changes nothing. -/
theorem owners_isolated (hash : String → String) (w : World) (userId : String)
    (steps : List (Instant × DrawnStep)) (hdistinct : Distinct hash steps) (kept : Instant × DrawnStep → Bool)
    (hkept : ∀ x ∈ steps, Concerns hash userId steps x.2 → kept x = true) :
    let run := drawnRun hash { w with keys := ApiKeyStore.empty }
    let told := fun events : List (Event DrawnStep KeyAnswer) =>
      events.filter fun event => Concerns hash userId steps event.step
    told (run steps).2 = told (run (steps.filter kept)).2 ∧
      ∀ owner id now, let after : World := { (run steps).1 with now }
        (∃ k, after.keys.get? (Text.trim id) = some k ∧ k.userId ≠ owner.userId) ∨
            after.keys.get? (Text.trim id) = none ∧ Text.trim id ≠ "" →
          after.perform (ApiKey.revokeById owner id).run =
            (some (.error (.notFound "api key not found")), after) := by
  intro run told
  refine ⟨congrArg Prod.snd (seenBy_kept hash w userId hdistinct hkept steps List.suffix_rfl), ?_⟩
  rintro owner id now after (⟨k, hk, hother⟩ | ⟨hnone, hnamed⟩)
  · refine revoke_foreign (id_of_traced (drawnRun_traced hash w steps) hk) fun k' hk' => ?_
    rw [Option.some.inj (hk'.symm.trans hk)]
    exact hother
  · refine revoke_foreign hnamed fun k hk => ?_
    rw [hnone] at hk
    cases hk

/-- A token with a mark on it, which is a hash for a trial. -/
def markedHash (token : String) : String := "#" ++ token

/-- Two neighbours make a key each, and the one tries to revoke the other's. -/
def neighbourSteps : List (Instant × DrawnStep) :=
  [(atSecond 50, countedTokens, .authenticate "sk_a" ⟨"GET"⟩), (atSecond 40, countedTokens, .list ⟨"u", "r"⟩),
    (atSecond 30, countedTokens, .revoke ⟨"v", "r"⟩ "key_aa"),
    (atSecond 20, { countedTokens with issued := 2 }, .create ⟨"v", "r"⟩ "gate" ""),
    (atSecond 10, countedTokens, .create ⟨"u", "r"⟩ "door" "read")]

/-- The one neighbour cannot tell whether there is the other. -/
theorem owners_isolated_neighbours :
    let run := drawnRun markedHash { doorWorld with keys := ApiKeyStore.empty }
    let told := fun events : List (Event DrawnStep KeyAnswer) =>
      events.filter fun event => Concerns markedHash "u" neighbourSteps event.step
    let alone := neighbourSteps.filter fun x => Concerns markedHash "u" neighbourSteps x.2
    alone.length = 3 ∧ told (run neighbourSteps).2 = told (run alone).2 ∧
      let after : World := { (run neighbourSteps).1 with now := atSecond 60 }
      after.perform (ApiKey.revokeById ⟨"v", "r"⟩ "key_aa").run =
        (some (.error (.notFound "api key not found")), after) := by
  have hdistinct : Distinct markedHash neighbourSteps := ⟨by decide +kernel, by decide +kernel⟩
  have hisolated := owners_isolated markedHash doorWorld "u" neighbourSteps hdistinct
    (fun x => Concerns markedHash "u" neighbourSteps x.2) fun x _ hx => decide_eq_true hx
  dsimp only at hisolated ⊢
  have hforeign := hisolated.2 ⟨"v", "r"⟩ "key_aa" (atSecond 60)
    (Or.inl ⟨nextKey markedHash { doorWorld with now := atSecond 10 }
      ⟨"u", "r"⟩ "door" .read, by decide +kernel, by decide +kernel⟩)
  exact ⟨by decide +kernel, hisolated.1, hforeign⟩

end Gatehouse.Proofs
