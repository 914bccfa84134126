import Gatehouse.Proofs.KeyListing

/-!
# What a listing shows of a run

Whatever a run has inserted and revoked, a listing shows every key of the user that ever came in, once and
as it stands now, and nothing else. Its order is strict, so that it does not depend on how the store keeps
its keys, nor on the order in which they came in and were revoked.
-/

namespace Gatehouse.Proofs
open ApiKeyStore

variable {st : ApiKeyStore} {steps steps' : List FilingStep} {step : FilingStep} {id userId : String}
  {k k' : ApiKey}

def revocationOf? (id : String) : FilingStep → Option Instant
  | .insert _ => none
  | .revoke id' moment => if id' = id then some moment else none

/-- The instant of the first revocation under an identifier. -/
def firstRevoked? (id : String) (steps : List FilingStep) : Option Instant :=
  steps.findSome? (revocationOf? id)

/-- A key as the steps after its insertion leave it. Only the first revocation counts, and none if the key
came in revoked. -/
def keptAs (k : ApiKey) (after : List FilingStep) : ApiKey :=
  { k with revokedAt := k.revokedAt.or (firstRevoked? k.id after) }

/-- A key is inserted with success between two parts of a run. -/
structure Enters (k : ApiKey) (before after steps : List FilingStep) : Prop where
  split : steps = before ++ .insert k :: after
  accepted : ∃ st, (filingRun before).insert k = .ok st

lemma keptAs_nil (k : ApiKey) : keptAs k [] = k := by
  unfold keptAs firstRevoked?
  rw [List.findSome?_nil, Option.or_none]

lemma keptAs_append (k : ApiKey) (after after' : List FilingStep) :
    keptAs k (after ++ after') = keptAs (keptAs k after) after' := by
  unfold keptAs firstRevoked?
  rw [List.findSome?_append, Option.or_assoc]

lemma firstRevoked?_revoke (id id' : String) (moment : Instant) :
    firstRevoked? id [.revoke id' moment] = if id' = id then some moment else none :=
  List.findSome?_singleton

/-- The last step of a run is either behind a given one or is that one. -/
lemma concat_eq_append_cons {s : FilingStep} {before after : List FilingStep} :
    steps ++ [step] = before ++ s :: after ↔
      (∃ after', after = after' ++ [step] ∧ steps = before ++ s :: after') ∨
        after = [] ∧ before = steps ∧ step = s := by
  constructor
  · intro h
    rcases List.eq_nil_or_concat' after with rfl | ⟨after', last, rfl⟩
    · obtain ⟨rfl, rfl⟩ := List.append_singleton_inj.1 h
      exact Or.inr ⟨rfl, rfl, rfl⟩
    · rw [← List.cons_append, ← List.append_assoc] at h
      obtain ⟨hsteps, rfl⟩ := List.append_singleton_inj.1 h
      exact Or.inl ⟨after', rfl, hsteps⟩
  · rintro (⟨after', rfl, rfl⟩ | ⟨rfl, rfl, rfl⟩)
    · rw [List.append_assoc, List.cons_append]
    · rfl

lemma enters_concat {before after : List FilingStep} :
    Enters k before after (steps ++ [step]) ↔
      (∃ after', after = after' ++ [step] ∧ Enters k before after' steps) ∨
        after = [] ∧ before = steps ∧ step = .insert k ∧ ∃ st, (filingRun steps).insert k = .ok st := by
  constructor
  · rintro ⟨hsplit, haccepted⟩
    rcases concat_eq_append_cons.1 hsplit with ⟨after', hafter, hsteps⟩ | ⟨hafter, rfl, hstep⟩
    · exact Or.inl ⟨after', hafter, hsteps, haccepted⟩
    · exact Or.inr ⟨hafter, rfl, hstep, haccepted⟩
  · rintro (⟨after', hafter, hsteps, haccepted⟩ | ⟨hafter, rfl, hstep, haccepted⟩)
    · exact ⟨concat_eq_append_cons.2 (Or.inl ⟨after', hafter, hsteps⟩), haccepted⟩
    · exact ⟨concat_eq_append_cons.2 (Or.inr ⟨hafter, rfl, hstep⟩), haccepted⟩

lemma get?_of_filed (hk : st.get? id = some k) (hid : k.id = id) (step : FilingStep) :
    (takeFilingStep st step).get? id = some (keptAs k [step]) := by
  cases step with
  | insert k' =>
    have hkept : keptAs k [.insert k'] = k := keptAs_nil k
    rw [hkept]
    show ((st.insert k').toOption.getD st).get? id = some k
    cases hinsert : st.insert k' with
    | error _ => exact hk
    | ok st' =>
      have hne : id ≠ k'.id := by
        rintro rfl
        exact Option.some_ne_none k (hk.symm.trans (insert_eq_ok_iff.1 hinsert).1)
      exact (get?_of_insert hinsert id).trans ((if_neg hne).trans hk)
  | revoke id' moment =>
    show (st.revoke id' moment).2.get? id = _
    rw [get?_revoke]
    subst hid
    unfold keptAs
    rw [firstRevoked?_revoke]
    by_cases heq : k.id = id'
    · rw [if_pos heq, if_pos heq.symm, ← heq, hk, Option.map_some, ApiKey.revoke]
      cases k.revokedAt <;> rfl
    · rw [if_neg heq, if_neg (Ne.symm heq), hk, Option.or_none]

lemma get?_of_free (hfree : st.get? id = none) (step : FilingStep) :
    (takeFilingStep st step).get? id = some k' ↔
      step = .insert k' ∧ k'.id = id ∧ ∃ st', st.insert k' = .ok st' := by
  cases step with
  | insert k =>
    show ((st.insert k).toOption.getD st).get? id = some k' ↔ _
    cases hinsert : st.insert k with
    | error e =>
      refine iff_of_false (fun h => Option.some_ne_none k' (h.symm.trans hfree)) ?_
      rintro ⟨hstep, _, st', hok⟩
      cases hstep
      cases hinsert.symm.trans hok
    | ok st' =>
      show st'.get? id = some k' ↔ _
      rw [get?_of_insert hinsert]
      constructor
      · intro h
        split at h
        · rename_i heq
          cases h
          exact ⟨rfl, heq.symm, st', hinsert⟩
        · exact absurd (h.symm.trans hfree) (Option.some_ne_none k')
      · rintro ⟨hstep, hid, _⟩
        cases hstep
        rw [if_pos hid.symm]
  | revoke id' moment =>
    refine iff_of_false (fun h => ?_) fun h => by cases h.1
    have hrevoked : (st.revoke id' moment).2.get? id = some k' := h
    rw [get?_revoke] at hrevoked
    split at hrevoked
    · rename_i heq
      rw [← heq, hfree] at hrevoked
      cases hrevoked
    · exact Option.some_ne_none k' (hrevoked.symm.trans hfree)

/-- What is on file after a run came in by an insertion, and is what the steps since then have left of it. -/
lemma get?_filingRun (steps : List FilingStep) (id : String) (k' : ApiKey) :
    (filingRun steps).get? id = some k' ↔
      ∃ k before after, Enters k before after steps ∧ k.id = id ∧ keptAs k after = k' := by
  induction steps using List.reverseRecOn generalizing k' with
  | nil =>
    refine iff_of_false (fun h => by cases h) ?_
    rintro ⟨k, before, after, ⟨hsplit, _⟩, _⟩
    exact List.append_ne_nil_of_right_ne_nil before (List.cons_ne_nil _ _) hsplit.symm
  | append_singleton steps step ih =>
    rw [filingRun_concat]
    cases hfiled : (filingRun steps).get? id with
    | none =>
      rw [get?_of_free hfiled]
      constructor
      · rintro ⟨rfl, hid, haccepted⟩
        exact ⟨k', steps, [], enters_concat.2 (Or.inr ⟨rfl, rfl, rfl, haccepted⟩), hid, keptAs_nil k'⟩
      · rintro ⟨k, before, after, henters, hid, hkept⟩
        rcases enters_concat.1 henters with ⟨after', rfl, henters'⟩ | ⟨rfl, rfl, rfl, haccepted⟩
        · exact absurd (hfiled.symm.trans ((ih (keptAs k after')).2 ⟨k, before, after', henters', hid, rfl⟩))
            (Option.some_ne_none _).symm
        · rw [keptAs_nil] at hkept
          subst hkept
          exact ⟨rfl, hid, haccepted⟩
    | some old =>
      obtain ⟨k, before, after, henters, hid, hkept⟩ := (ih old).1 hfiled
      have hold : old.id = id := by rw [← hkept]; exact hid
      rw [get?_of_filed hfiled hold, Option.some.injEq]
      constructor
      · rintro rfl
        refine ⟨k, before, after ++ [step], enters_concat.2 (Or.inl ⟨after, rfl, henters⟩), hid, ?_⟩
        rw [keptAs_append, hkept]
      · rintro ⟨k₁, before₁, after₁, henters₁, hid₁, rfl⟩
        rcases enters_concat.1 henters₁ with ⟨after', rfl, henters'⟩ | ⟨rfl, rfl, rfl, st', haccepted⟩
        · have hsame := (ih (keptAs k₁ after')).2 ⟨k₁, before₁, after', henters', hid₁, rfl⟩
          rw [keptAs_append, Option.some.inj (hfiled.symm.trans hsame)]
        -- the identifier was taken, so nothing was filed under it again
        · have hfree := (insert_eq_ok_iff.1 haccepted).1
          rw [hid₁] at hfree
          exact absurd (hfiled.symm.trans hfree) (Option.some_ne_none old)

lemma mem_listByUser_filingRun :
    k' ∈ (filingRun steps).listByUser userId ↔
      ∃ k before after, Enters k before after steps ∧ k.userId = userId ∧ keptAs k after = k' := by
  rw [mem_listByUser (indexed_filingRun steps), ownKey?_eq_some_iff, get?_filingRun]
  constructor
  · rintro ⟨⟨k, before, after, henters, _, rfl⟩, howned⟩
    exact ⟨k, before, after, henters, howned, rfl⟩
  · rintro ⟨k, before, after, henters, howned, rfl⟩
    exact ⟨⟨k, before, after, henters, rfl, rfl⟩, howned⟩

lemma eq_of_id_eq (h : Indexed st) (hk : k ∈ st.listByUser userId) (hk' : k' ∈ st.listByUser userId)
    (hid : k.id = k'.id) : k = k' := by
  rw [mem_listByUser h, hid] at hk
  rw [mem_listByUser h] at hk'
  exact Option.some.inj (hk.symm.trans hk')

/-- Later keys first, and of keys of one instant the greater identifier first. -/
def StrictlyBefore (a b : ApiKey) : Prop :=
  b.createdAt < a.createdAt ∨ a.createdAt = b.createdAt ∧ b.id < a.id

lemma listByUser_strict (h : Indexed st) (userId : String) :
    (st.listByUser userId).Pairwise StrictlyBefore := by
  have hboth := (listByUser_sorted st userId).and (listByUser_nodup h userId)
  refine hboth.imp_of_mem fun {a b} ha hb hab => ?_
  rcases listedBefore_iff.1 hab.1 with hlater | ⟨hcreated, hids⟩
  · exact Or.inl hlater
  · refine Or.inr ⟨hcreated, String.not_le.1 fun hids' => hab.2 (eq_of_id_eq h ha hb ?_)⟩
    exact String.le_antisymm hids' hids

/-- The keys of a user in the order of a listing, from all keys in any order. -/
def arranged (keys : List ApiKey) (userId : String) : List ApiKey :=
  (keys.filter fun k => k.userId = userId).mergeSort listedBefore

/-- It does not matter in which order a store goes through its keys. -/
lemma arranged_eq (h : Indexed st) {keys : List ApiKey} (hkeys : keys.Perm st.keys.values) (userId : String) :
    arranged keys userId = st.listByUser userId := by
  have hperm : (arranged keys userId).Perm (st.listByUser userId) :=
    (List.mergeSort_perm _ _).trans ((hkeys.filter _).trans (List.mergeSort_perm _ _).symm)
  refine List.Perm.eq_of_pairwise (fun a b ha hb hab hba => ?_)
    (List.pairwise_mergeSort listedBefore_trans listedBefore_total _) (listByUser_sorted st userId) hperm
  exact eq_of_id_eq h (hperm.mem_iff.1 ha) hb (id_eq_of_listedBefore hab hba)

lemma filter_listByUser {before after : List FilingStep} (henters : Enters k before after steps)
    (howned : k.userId = userId) :
    ((filingRun steps).listByUser userId).filter (fun k' => k'.id = k.id) = [keptAs k after] := by
  have hindexed := indexed_filingRun steps
  have hlisted : keptAs k after ∈ (filingRun steps).listByUser userId :=
    mem_listByUser_filingRun.2 ⟨k, before, after, henters, howned, rfl⟩
  refine List.perm_singleton.1 ((List.perm_ext_iff_of_nodup ((listByUser_nodup hindexed userId).filter _)
    (List.nodup_singleton _)).2 fun k' => ?_)
  rw [List.mem_filter, List.mem_singleton, decide_eq_true_eq]
  constructor
  · rintro ⟨hk', hid⟩
    exact eq_of_id_eq hindexed hk' hlisted hid
  · rintro rfl
    exact ⟨hlisted, rfl⟩

/-- A run in which no insertion fails and no key is revoked before it is there. -/
structure Proper (steps : List FilingStep) : Prop where
  accepted : ∀ before k after, steps = before ++ .insert k :: after →
    ∃ st, (filingRun before).insert k = .ok st
  later : ∀ before k after, steps = before ++ .insert k :: after → ∀ moment, .revoke k.id moment ∉ before

lemma proper_nil : Proper [] := by
  have hnone : ∀ before k after, ([] : List FilingStep) ≠ before ++ .insert k :: after := by
    intro before k after h
    exact List.append_ne_nil_of_right_ne_nil before (List.cons_ne_nil _ _) h.symm
  exact ⟨fun before k after h => absurd h (hnone before k after),
    fun before k after h => absurd h (hnone before k after)⟩

lemma proper_concat (h : Proper steps)
    (hstep : ∀ k, step = .insert k →
      (∃ st, (filingRun steps).insert k = .ok st) ∧ ∀ moment, .revoke k.id moment ∉ steps) :
    Proper (steps ++ [step]) := by
  refine ⟨fun before k after heq => ?_, fun before k after heq => ?_⟩
  · rcases concat_eq_append_cons.1 heq with ⟨after', _, hold⟩ | ⟨_, rfl, hnew⟩
    · exact h.accepted before k after' hold
    · exact (hstep k hnew).1
  · rcases concat_eq_append_cons.1 heq with ⟨after', _, hold⟩ | ⟨_, rfl, hnew⟩
    · exact h.later before k after' hold
    · exact (hstep k hnew).2

lemma proper_revoke (h : Proper steps) (id : String) (moment : Instant) :
    Proper (steps ++ [.revoke id moment]) :=
  proper_concat h fun k hk => by cases hk

lemma proper_insert (h : Proper steps) (haccepted : ∃ st, (filingRun steps).insert k = .ok st)
    (hlater : ∀ moment, .revoke k.id moment ∉ steps) : Proper (steps ++ [.insert k]) := by
  refine proper_concat h fun k' hk' => ?_
  cases hk'
  exact ⟨haccepted, hlater⟩

lemma firstRevoked?_eq_none (h : ∀ moment, .revoke id moment ∉ steps) : firstRevoked? id steps = none := by
  refine List.findSome?_eq_none_iff.2 fun step hstep => ?_
  cases step with
  | insert k => rfl
  | revoke id' moment =>
    refine if_neg ?_
    rintro rfl
    exact h moment hstep

lemma ownKey?_of_proper (h : Proper steps) :
    ownKey? (filingRun steps) userId id = some k' ↔
      ∃ k, .insert k ∈ steps ∧ k.id = id ∧ k.userId = userId ∧ keptAs k steps = k' := by
  have hkept : ∀ {k before after}, steps = before ++ .insert k :: after →
      keptAs k after = keptAs k steps := by
    intro k before after hsplit
    have hbefore := firstRevoked?_eq_none (h.later before k after hsplit)
    have hafter : firstRevoked? k.id steps = firstRevoked? k.id after := by
      unfold firstRevoked? at hbefore ⊢
      rw [hsplit, List.findSome?_append, hbefore, Option.none_or]
      rfl
    unfold keptAs
    rw [hafter]
  rw [ownKey?_eq_some_iff, get?_filingRun]
  constructor
  · rintro ⟨⟨k, before, after, henters, hid, rfl⟩, howned⟩
    refine ⟨k, ?_, hid, howned, (hkept henters.split).symm⟩
    rw [henters.split]
    exact List.mem_append_right _ List.mem_cons_self
  · rintro ⟨k, hinsert, hid, howned, rfl⟩
    obtain ⟨before, after, hsplit⟩ := List.append_of_mem hinsert
    exact ⟨⟨k, before, after, ⟨hsplit, h.accepted before k after hsplit⟩, hid, hkept hsplit⟩, howned⟩

lemma listByUser_of_proper (h : Proper steps) (h' : Proper steps')
    (hinserts : ∀ k, .insert k ∈ steps ↔ .insert k ∈ steps')
    (hrevokes : ∀ k, .insert k ∈ steps → firstRevoked? k.id steps = firstRevoked? k.id steps')
    (userId : String) :
    (filingRun steps').listByUser userId = (filingRun steps).listByUser userId := by
  refine listByUser_eq (indexed_filingRun steps') (indexed_filingRun steps) fun id => Option.ext fun k' => ?_
  rw [ownKey?_of_proper h, ownKey?_of_proper h']
  refine exists_congr fun k => ?_
  rw [← hinserts]
  refine and_congr_right fun hinsert => ?_
  unfold keptAs
  rw [hrevokes k hinsert]

/-- After every run on an empty store, the listing of a user's keys shows the keys of that user that were
inserted with success, as the steps since then have left them, and no others. It shows each of them once,
and is strictly sorted by the instant of creation and the identifier, both descending. It is the same in
whatever order the store goes through its keys, and the same for every other run that inserts the same keys
and revokes each of them first at the same instant, if in neither an insertion fails or a key is revoked
before it is there. -/
theorem key_listing_exact (userId : String) (steps : List FilingStep) :
    let listing := (filingRun steps).listByUser userId
    (∀ k', k' ∈ listing ↔
      ∃ k before after, Enters k before after steps ∧ k.userId = userId ∧ keptAs k after = k') ∧
    (∀ k before after, Enters k before after steps → k.userId = userId →
      listing.filter (fun k' => k'.id = k.id) = [keptAs k after]) ∧
    listing.Pairwise StrictlyBefore ∧
    (∀ keys, keys.Perm (filingRun steps).keys.values → arranged keys userId = listing) ∧
    ∀ steps', Proper steps → Proper steps' → (∀ k, .insert k ∈ steps ↔ .insert k ∈ steps') →
      (∀ k, .insert k ∈ steps → firstRevoked? k.id steps = firstRevoked? k.id steps') →
        (filingRun steps').listByUser userId = listing := by
  have hindexed := indexed_filingRun steps
  exact ⟨fun k' => mem_listByUser_filingRun,
    fun k before after henters howned => filter_listByUser henters howned,
    listByUser_strict hindexed userId, fun keys hkeys => arranged_eq hindexed hkeys userId,
    fun steps' h h' hinserts hrevokes => listByUser_of_proper h h' hinserts hrevokes userId⟩

/-- A key of a user, made at a second. -/
def keyAt (id userId : String) (n : Nat) : ApiKey :=
  ⟨id, userId, "r", id, .readWrite, id, "sk_", atSecond n, none⟩

def mixedSteps : List FilingStep :=
  [.insert (keyAt "key_a" "u" 10), .insert (keyAt "key_b" "u" 10), .revoke "key_a" (atSecond 20),
    .insert (keyAt "key_c" "v" 15), .revoke "key_a" (atSecond 30)]

/-- The same insertions the other way round, and one revocation only. -/
def otherSteps : List FilingStep :=
  [.insert (keyAt "key_c" "v" 15), .insert (keyAt "key_b" "u" 10), .insert (keyAt "key_a" "u" 10),
    .revoke "key_a" (atSecond 20)]

theorem key_listing_exact_mixed :
    let revoked := keptAs (keyAt "key_a" "u" 10) (mixedSteps.drop 1)
    Proper mixedSteps ∧ Proper otherSteps ∧
      (filingRun mixedSteps).listByUser "u" = [keyAt "key_b" "u" 10, revoked] ∧
      ((filingRun mixedSteps).listByUser "u").filter (fun k => k.id = "key_a") = [revoked] ∧
      arranged (filingRun mixedSteps).keys.values.reverse "u" = (filingRun mixedSteps).listByUser "u" ∧
      (filingRun otherSteps).listByUser "u" = (filingRun mixedSteps).listByUser "u" := by
  intro revoked
  have hmixed : Proper mixedSteps := by
    have hfirst := proper_insert (k := keyAt "key_a" "u" 10) proper_nil ⟨_, rfl⟩ (by simp)
    have hsecond := proper_insert (k := keyAt "key_b" "u" 10) hfirst ⟨_, rfl⟩ (by simp)
    have hrevoked := proper_revoke hsecond "key_a" (atSecond 20)
    have hthird := proper_insert (k := keyAt "key_c" "v" 15) hrevoked ⟨_, rfl⟩ (by simp [keyAt])
    exact proper_revoke hthird "key_a" (atSecond 30)
  have hother : Proper otherSteps := by
    have hfirst := proper_insert (k := keyAt "key_c" "v" 15) proper_nil ⟨_, rfl⟩ (by simp)
    have hsecond := proper_insert (k := keyAt "key_b" "u" 10) hfirst ⟨_, rfl⟩ (by simp)
    have hthird := proper_insert (k := keyAt "key_a" "u" 10) hsecond ⟨_, rfl⟩ (by simp)
    exact proper_revoke hthird "key_a" (atSecond 20)
  obtain ⟨_, honce, _, hany, hcanonical⟩ := key_listing_exact "u" mixedSteps
  have henters : Enters (keyAt "key_a" "u" 10) [] (mixedSteps.drop 1) mixedSteps := ⟨rfl, ⟨_, rfl⟩⟩
  have hinserts : ∀ k, .insert k ∈ mixedSteps ↔ .insert k ∈ otherSteps := by
    intro k
    simp only [mixedSteps, otherSteps, List.mem_cons, List.not_mem_nil, or_false, reduceCtorEq, false_or]
    tauto
  have hrevokes : ∀ k, .insert k ∈ mixedSteps →
      firstRevoked? k.id mixedSteps = firstRevoked? k.id otherSteps := by
    intro k hk
    simp only [mixedSteps, List.mem_cons, List.not_mem_nil, or_false, reduceCtorEq, false_or,
      FilingStep.insert.injEq] at hk
    rcases hk with rfl | rfl | rfl <;> rfl
  have hlisted : (filingRun mixedSteps).listByUser "u" = [keyAt "key_b" "u" 10, revoked] := by
    rw [← hany [keyAt "key_b" "u" 10, revoked, keyAt "key_c" "v" 15] (by decide)]
    show [keyAt "key_b" "u" 10, revoked].mergeSort listedBefore = _
    exact List.mergeSort_of_pairwise (by decide)
  exact ⟨hmixed, hother, hlisted, honce _ _ _ henters rfl, hany _ (List.reverse_perm _),
    hcanonical otherSteps hmixed hother hinserts hrevokes⟩

end Gatehouse.Proofs
