import Gatehouse.Proofs.CallKinds
import Gatehouse.Proofs.KeyHistory
import Mathlib.Logic.Function.Basic

/-!
# Revocations among concurrent requests

Requests to the keys that are under way at one time take turns, one call at a turn, in any order. A revocation
is a check and a later write, so the calls of others come in between. It does not matter: keys are never
removed, the first write to a key decides when it was revoked, and whoever has found a key of his own will be
told that it is revoked.
-/

namespace Gatehouse.Proofs

variable {ι α : Type} {hash : String → String} {w : World} {st st' : ApiKeyStore} {k : ApiKey} {id : String}
  {c : Call} {p : Procedure α}

/-- The instant that a call writes on a key. -/
def revocation? (id : String) : Call → Option Instant
  | .revokeKey id' moment => if id' = id then some moment else none
  | _ => none

/-- The instant that the first call to revoke a key carries. The last call comes first in the list. -/
def firstRevocation? (id : String) : List Call → Option Instant
  | [] => none
  | c :: earlier => (firstRevocation? id earlier).or (revocation? id c)

/-- When a key was revoked, if it is on file and revoked. -/
def revokedAt? (st : ApiKeyStore) (id : String) : Option Instant := (st.get? id).bind ApiKey.revokedAt

/-- A key that is about to be filed is not revoked, and a key that is about to be revoked is on file. -/
def InOrder (st : ApiKeyStore) : Call → Prop
  | .insertKey k => k.revokedAt = none
  | .revokeKey id _ => st.get? id ≠ none
  | _ => True

/-- A call puts a new key on file, or dates what is there. -/
lemma get?_answer (c : Call) (w : World) (id : String) :
    (w.keys.get? id = none ∧ ∃ k, c = .insertKey k ∧ (World.answer c w).2.keys.get? id = some k) ∨
      (World.answer c w).2.keys.get? id =
        (w.keys.get? id).map fun k => { k with revokedAt := k.revokedAt.or (revocation? id c) } := by
  cases c with
  | insertKey k =>
    simp only [World.answer, World.insertKey, revocation?, Option.or_none, Option.map_id']
    cases hinsert : w.keys.insert k with
    | error e => exact Or.inr rfl
    | ok keys =>
      obtain ⟨hnew, _, _⟩ := ApiKeyStore.insert_eq_ok_iff.1 hinsert
      simp only [get?_of_insert hinsert]
      by_cases hid : id = k.id
      · rw [if_pos hid]
        exact Or.inl ⟨hid ▸ hnew, k, rfl, rfl⟩
      · rw [if_neg hid]
        exact Or.inr rfl
  | revokeKey id' moment =>
    simp only [World.answer, revocation?, ApiKeyStore.get?_revoke]
    by_cases hid : id = id'
    · rw [if_pos hid, if_pos hid.symm, hid]
      refine Or.inr (Option.map_congr fun k _ => ?_)
      unfold ApiKey.revoke
      cases k.revokedAt <;> rfl
    · rw [if_neg hid, if_neg (Ne.symm hid)]
      simp
  | _ =>
    rw [keys_unless (fun _ => Call.noConfusion) fun _ _ => Call.noConfusion]
    simp [revocation?]

lemma get?_answer_of_filed (c : Call) (hk : w.keys.get? id = some k) :
    (World.answer c w).2.keys.get? id = some { k with revokedAt := k.revokedAt.or (revocation? id c) } := by
  rcases get?_answer c w id with ⟨hnone, _⟩ | hdated
  · rw [hk] at hnone
    cases hnone
  · rw [hdated, hk]
    rfl

lemma revokedAt?_answer (id : String) (h : InOrder w.keys c) :
    revokedAt? (World.answer c w).2.keys id = (revokedAt? w.keys id).or (revocation? id c) := by
  unfold revokedAt?
  rcases get?_answer c w id with ⟨hnone, k, rfl, hk⟩ | hdated
  · rw [hnone, hk]
    exact h
  · rw [hdated]
    cases hk : w.keys.get? id with
    | some k => rfl
    -- a call to revoke this key would have found it on file
    | none =>
      have hcall : revocation? id c = none := by
        cases c with
        | revokeKey id' moment =>
          refine if_neg ?_
          rintro rfl
          exact h hk
        | _ => rfl
      rw [hcall]
      rfl

lemma indexed_answer (h : Indexed w.keys) (c : Call) : Indexed (World.answer c w).2.keys := by
  cases c with
  | insertKey k =>
    simp only [World.answer, World.insertKey]
    cases hinsert : w.keys.insert k with
    | error e => exact h
    | ok keys => exact indexed_insert h hinsert
  | revokeKey id moment => exact indexed_revoke h id moment
  | _ =>
    rw [keys_unless (fun _ => Call.noConfusion) fun _ _ => Call.noConfusion]
    exact h

/-- What a request is served by. -/
def keyProcedure (hash : String → String) : KeyStep → Procedure (Except AuthError KeyReply)
  | .create owner name scope => Except.map .created <$> (ApiKey.create hash owner name scope).run
  | .list owner => Except.map .listed <$> (ApiKey.list owner).run
  | .revoke owner id => Except.map (fun _ => .revoked) <$> (ApiKey.revokeById owner id).run
  | .authenticate token m => Except.map .authenticated <$> (ApiKey.authenticate hash token m).run

/-- A request that is served without a break is one step of a run. -/
lemma perform_keyProcedure (w : World) (step : KeyStep) :
    w.perform (keyProcedure hash step) = takeKeyStep hash w step := by
  cases step <;> exact Procedure.run_map World.answer _ _ w

/-- The call that a procedure is about to make. -/
def nextCall? : Procedure α → Option Call
  | .call c _ => some c
  | _ => none

/-- What is left of every request, and the world that they share. -/
structure Pool (ι : Type) where
  world : World
  left : ι → Procedure (Except AuthError KeyReply)

/-- Nothing has been done for the requests yet. -/
def Pool.start (hash : String → String) (w : World) (requests : ι → KeyStep) : Pool ι where
  world := w
  left := fun i => keyProcedure hash (requests i)

variable [DecidableEq ι]

/-- A request makes its next call, at a reading of the clock. One that has no call to make is left as it is.
-/
def Pool.turn (s : Pool ι) (t : Instant) (i : ι) : Pool ι :=
  let after := (s.left i).step World.answer { s.world with now := t }
  ⟨after.2, Function.update s.left i after.1⟩

/-- Gives turns, the last one first in the list, and tells the calls that are made in that order too. -/
def poolRun (s : Pool ι) : List (Instant × ι) → Pool ι × List Call
  | [] => (s, [])
  | (t, i) :: earlier =>
    let before := poolRun s earlier
    (before.1.turn t i, (nextCall? (before.1.left i)).toList ++ before.2)

/-- A call that neither looks a key up nor revokes one. -/
def Plain : Call → Prop
  | .insertKey k => k.revokedAt = none
  | .getKey _ => False
  | .findKey _ => False
  | .revokeKey _ _ => False
  | _ => True

/-- A request to revoke a key that it has found, and how many calls it is away from its answer. -/
inductive Settling (id : String) : Nat → Procedure (Except AuthError KeyReply) → Prop
  | told : Settling id 0 (.done (.ok .revoked))
  | writing (moment : Instant) {next : Except StoreFault Bool → Procedure (Except AuthError KeyReply)}
    (hnext : next (.ok true) = .done (.ok .revoked)) : Settling id 1 (.call (.revokeKey id moment) next)
  | dating {next : Instant → Procedure (Except AuthError KeyReply)}
    (hnext : ∀ moment, Settling id 1 (next moment)) :
    Settling id 2 (.call .now next)

/-- What may be left of a request while others are served: all of it; or no look-up any more; or, where a
key of the owner's was found that is to be revoked, the end of its revocation. -/
inductive Underway (hash : String → String) (st : ApiKeyStore) :
    KeyStep → Procedure (Except AuthError KeyReply) → Prop
  | waiting (step : KeyStep) : Underway hash st step (keyProcedure hash step)
  | plain {step : KeyStep} {p : Procedure (Except AuthError KeyReply)} (h : Only Plain p) :
    Underway hash st step p
  | settling {owner : Principal} {id : String} {n : Nat} {p : Procedure (Except AuthError KeyReply)}
    (hfiled : st.get? (Text.trim id) ≠ none) (h : Settling (Text.trim id) n p) :
    Underway hash st (.revoke owner id) p

variable {left : Procedure (Except AuthError KeyReply)} {step : KeyStep} {n : Nat}

lemma only_nextCall {P : Call → Prop} (h : Only P p) (hc : nextCall? p = some c) : P c := by
  cases h with
  | done a => cases hc
  | breakdown => cases hc
  | call h _ =>
    cases hc
    exact h

lemma only_step {P : Call → Prop} (h : Only P p) (w : World) : Only P (p.step World.answer w).1 := by
  cases h with
  | done a => exact .done a
  | breakdown => exact .breakdown
  | call _ hnext =>
    simp only [Procedure.step]
    split
    · exact hnext _
    · exact .breakdown

lemma inOrder_of_plain (h : Plain c) : InOrder st c := by
  cases c with
  | insertKey k => exact h
  | revokeKey id moment => exact h.elim
  | _ => trivial

lemma plain_create (owner : Principal) (name scope : String) :
    Only Plain (keyProcedure hash (.create owner name scope)) :=
  only_then (only_newKey trivial (fun _ => trivial) (fun _ hk => hk) hash owner name scope) fun _ => .done _

lemma plain_list (owner : Principal) : Only Plain (keyProcedure hash (.list owner)) :=
  only_then (only_bind (only_ask trivial) fun r => only_orTell _ r) fun _ => .done _

/-- A procedure that begins with a call, if it makes any, and makes calls of a kind after that. -/
def Begins (c : Call) (P : Call → Prop) (p : Procedure α) : Prop :=
  (∃ a, p = .done a) ∨ ∃ next, p = .call c next ∧ ∀ answer, Only P (next answer)

lemma ask_eq_call {ε β γ : Type} (c : Call) (f : c.Answer → Attempt ε β) (g : Except ε β → γ) :
    g <$> (Attempt.ask c >>= f).run = .call c fun answer => g <$> (f answer).run := rfl

lemma begins_authenticate (hash : String → String) (token : String) (m : Http.Method) :
    Begins (.findKey (hash (Text.trim token))) (fun _ => False)
      (keyProcedure hash (.authenticate token m)) := by
  unfold keyProcedure ApiKey.authenticate
  dsimp only
  by_cases hblank : Text.trim token = ""
  · rw [if_pos hblank]
    exact Or.inl ⟨_, rfl⟩
  rw [if_neg hblank]
  refine Or.inr ⟨_, ask_eq_call _ _ _, fun r => only_then ?_ fun _ => .done _⟩
  refine only_bind (only_orTell _ r) fun found => ?_
  split
  · exact .done _
  split <;> exact .done _

lemma begins_revoke (hash : String → String) (owner : Principal) (id : String) :
    (∃ r, keyProcedure hash (.revoke owner id) = .done r) ∨
      ∃ next, keyProcedure hash (.revoke owner id) = .call (.getKey (Text.trim id)) next ∧
        ∀ found, Only Plain (next found) ∧ (∀ k, found = .ok (some k) → k.userId ≠ owner.userId) ∨
          ∃ k n, found = .ok (some k) ∧ n ≤ 2 ∧ Settling (Text.trim id) n (next found) := by
  unfold keyProcedure ApiKey.revokeById
  dsimp only
  by_cases hblank : Text.trim id = ""
  · rw [if_pos hblank]
    exact Or.inl ⟨_, rfl⟩
  rw [if_neg hblank]
  refine Or.inr ⟨_, ask_eq_call _ _ _, fun found => ?_⟩
  cases found with
  | error e => exact Or.inl ⟨.done _, fun k hk => by cases hk⟩
  | ok found =>
    have hbind : ∀ f : Option ApiKey → Attempt AuthError Unit,
        (Attempt.orTell (fun _ => .internal "failed to load api key") (.ok found) >>= f) = f found :=
          fun _ => rfl
    simp only [hbind]
    cases howned : found.filter fun k => k.userId = owner.userId with
    | none =>
      refine Or.inl ⟨.done _, ?_⟩
      rintro k hk howner
      cases hk
      simp [howner] at howned
    | some k =>
      obtain ⟨rfl, _⟩ := Option.filter_eq_some_iff.1 howned
      refine Or.inr ⟨k, ?_⟩
      dsimp only
      cases k.isRevoked with
      | true => exact ⟨0, rfl, by decide, .told⟩
      | false => exact ⟨2, rfl, by decide, .dating fun moment => .writing moment rfl⟩

lemma perform_step (w : World) (p : Procedure α) :
    World.perform (p.step World.answer w).2 (p.step World.answer w).1 = w.perform p := by
  unfold World.perform
  cases p with
  | done a => rfl
  | breakdown => rfl
  | call c next =>
    simp only [Procedure.step, Procedure.run]
    cases World.answer c w with
    | mk answer w' => cases answer <;> rfl

/-- A procedure that makes no call any more is done, with the result that it had in store. -/
lemma done_of_no_call {a : α} {w' : World} (h : Only (fun _ => False) p)
    (hperform : w.perform p = (some a, w')) :
    p = .done a := by
  cases h with
  | done b =>
    cases hperform
    rfl
  | breakdown => cases hperform
  | call h _ => exact h.elim

lemma settling_step (h : Settling id n left) (hfiled : w.keys.get? id ≠ none) :
    Settling id (n - 1) (left.step World.answer w).1 := by
  cases h with
  | told => exact .told
  | writing moment hnext =>
    obtain ⟨k, hk⟩ := Option.ne_none_iff_exists'.1 hfiled
    simp only [Procedure.step, World.answer, revoke_fst moment hk, hnext]
    exact .told
  | dating hnext => exact hnext w.now

lemma settling_answer (h : Settling id n left) : nextCall? left ≠ none ∨ left = .done (.ok .revoked) := by
  cases h with
  | told => exact Or.inr rfl
  | writing moment hnext => exact Or.inl (Option.some_ne_none _)
  | dating hnext => exact Or.inl (Option.some_ne_none _)

lemma settled_answer (h : Settling id 0 left) : left = .done (.ok .revoked) := by
  cases h
  rfl

lemma filed_answer (c : Call) (w : World) (h : w.keys.get? id ≠ none) :
    (World.answer c w).2.keys.get? id ≠ none := by
  obtain ⟨k, hk⟩ := Option.ne_none_iff_exists'.1 h
  rw [get?_answer_of_filed c hk]
  exact Option.some_ne_none _

lemma step_snd (w : World) (p : Procedure α) :
    (p.step World.answer w).2 = match nextCall? p with
      | none => w
      | some c => (World.answer c w).2 := by
  cases p with
  | done a => rfl
  | breakdown => rfl
  | call c next =>
    simp only [Procedure.step, nextCall?]
    cases World.answer c w with
    | mk answer w' => cases answer <;> rfl

lemma underway_later (hkept : ∀ id, st.get? id ≠ none → st'.get? id ≠ none) (h : Underway hash st step left) :
    Underway hash st' step left := by
  cases h with
  | waiting step => exact .waiting step
  | plain h => exact .plain h
  | settling hfiled h => exact .settling (hkept _ hfiled) h

lemma underway_step (h : Underway hash w.keys step left) :
    Underway hash (left.step World.answer w).2.keys step (left.step World.answer w).1 := by
  have hkept : ∀ id, w.keys.get? id ≠ none → (left.step World.answer w).2.keys.get? id ≠ none := by
    intro id hfiled
    rw [step_snd]
    cases nextCall? left with
    | none => exact hfiled
    | some c => exact filed_answer c w hfiled
  refine underway_later hkept ?_
  cases h with
  | plain h => exact .plain (only_step h w)
  | settling hfiled h => exact .settling hfiled (settling_step h hfiled)
  | waiting step =>
    cases step with
    | create owner name scope => exact .plain (only_step (plain_create owner name scope) w)
    | list owner => exact .plain (only_step (plain_list owner) w)
    | authenticate token m =>
      rcases begins_authenticate hash token m with ⟨r, hdone⟩ | ⟨next, hcall, hnext⟩
      · rw [hdone]
        exact .plain (.done r)
      · rw [hcall]
        exact .plain (only_mono (fun _ hc => hc.elim) (hnext _))
    | revoke owner id =>
      rcases begins_revoke hash owner id with ⟨r, hdone⟩ | ⟨next, hcall, hnext⟩
      · rw [hdone]
        exact .plain (.done r)
      · rw [hcall]
        rcases hnext (.ok (w.keys.get? (Text.trim id))) with ⟨hplain, _⟩ | ⟨k, n, hfound, _, hsettling⟩
        · exact .plain hplain
        · refine .settling ?_ hsettling
          rw [Except.ok.inj hfound]
          exact Option.some_ne_none k

lemma inOrder_of_underway (h : Underway hash st step left) (hc : nextCall? left = some c) : InOrder st c := by
  cases h with
  | plain h => exact inOrder_of_plain (only_nextCall h hc)
  | settling hfiled h =>
    cases h with
    | told => cases hc
    | writing moment hnext =>
      cases hc
      exact hfiled
    | dating hnext =>
      cases hc
      trivial
  | waiting step =>
    cases step with
    | create owner name scope => exact inOrder_of_plain (only_nextCall (plain_create owner name scope) hc)
    | list owner => exact inOrder_of_plain (only_nextCall (plain_list owner) hc)
    | authenticate token m =>
      rcases begins_authenticate hash token m with ⟨r, hdone⟩ | ⟨next, hcall, _⟩
      · rw [hdone] at hc
        cases hc
      · rw [hcall] at hc
        cases hc
        trivial
    | revoke owner id =>
      rcases begins_revoke hash owner id with ⟨r, hdone⟩ | ⟨next, hcall, _⟩
      · rw [hdone] at hc
        cases hc
      · rw [hcall] at hc
        cases hc
        trivial

lemma waiting_of_search (h : Underway hash st step left) (hc : nextCall? left = some c) (hplain : ¬ Plain c)
    (hsearch : ∀ id moment, c ≠ .revokeKey id moment) : left = keyProcedure hash step := by
  cases h with
  | waiting step => rfl
  | plain h => exact absurd (only_nextCall h hc) hplain
  | settling _ h =>
    cases h with
    | told => cases hc
    | writing moment _ =>
      cases hc
      exact absurd rfl (hsearch _ moment)
    | dating _ =>
      cases hc
      exact absurd trivial hplain

/-! ### Turns -/

variable {s : Pool ι} {requests : ι → KeyStep}

lemma turn_keys (s : Pool ι) (t : Instant) (i : ι) :
    (s.turn t i).world.keys = match nextCall? (s.left i) with
      | none => s.world.keys
      | some c => (World.answer c { s.world with now := t }).2.keys := by
  unfold Pool.turn
  dsimp only
  rw [step_snd]
  cases nextCall? (s.left i) <;> rfl

lemma turn_left_self (s : Pool ι) (t : Instant) (i : ι) :
    (s.turn t i).left i = ((s.left i).step World.answer { s.world with now := t }).1 :=
  Function.update_self i _ _

lemma turn_left_other (s : Pool ι) (t : Instant) {i j : ι} (hne : j ≠ i) : (s.turn t i).left j = s.left j :=
  Function.update_of_ne hne _ _

lemma turn_done {r : Except AuthError KeyReply} (t : Instant) (j : ι) {i : ι} (h : s.left i = .done r) :
    (s.turn t j).left i = .done r := by
  by_cases hself : i = j
  · subst hself
    rw [turn_left_self, h]
    rfl
  · rw [turn_left_other s t hself]
    exact h

lemma poolRun_filed (s : Pool ι) (turns : List (Instant × ι)) (hk : s.world.keys.get? id = some k) :
    (poolRun s turns).1.world.keys.get? id =
      some { k with revokedAt := k.revokedAt.or (firstRevocation? id (poolRun s turns).2) } := by
  induction turns with
  | nil =>
    simp only [poolRun, firstRevocation?, Option.or_none]
    exact hk
  | cons last earlier ih =>
    obtain ⟨t, i⟩ := last
    simp only [poolRun]
    rw [turn_keys]
    cases nextCall? ((poolRun s earlier).1.left i) with
    | none => exact ih
    | some c =>
      have hanswer := get?_answer_of_filed (w := { (poolRun s earlier).1.world with now := t }) c ih
      simp only [Option.toList_some, List.cons_append, List.nil_append, firstRevocation?, ← Option.or_assoc]
      exact hanswer

/-- What holds of the requests and of the keys, turn after turn. -/
structure Orderly (hash : String → String) (w : World) (requests : ι → KeyStep) (s : Pool ι)
    (calls : List Call) : Prop where
  underway : ∀ i, Underway hash s.world.keys (requests i) (s.left i)
  indexed : Indexed s.world.keys
  dated : ∀ id, revokedAt? s.world.keys id = (revokedAt? w.keys id).or (firstRevocation? id calls)

lemma orderly_turn {calls : List Call} (h : Orderly hash w requests s calls) (t : Instant) (i : ι) :
    Orderly hash w requests (s.turn t i) ((nextCall? (s.left i)).toList ++ calls) := by
  have hself := underway_step (w := { s.world with now := t }) (h.underway i)
  refine ⟨fun j => ?_, ?_, fun id => ?_⟩
  · by_cases hj : j = i
    · subst hj
      rw [turn_left_self]
      exact hself
    · rw [turn_left_other s t hj]
      refine underway_later (fun id hfiled => ?_) (h.underway j)
      rw [turn_keys]
      cases nextCall? (s.left i) with
      | none => exact hfiled
      | some c => exact filed_answer c { s.world with now := t } hfiled
  · rw [turn_keys]
    cases nextCall? (s.left i) with
    | none => exact h.indexed
    | some c => exact indexed_answer (w := { s.world with now := t }) h.indexed c
  · rw [turn_keys]
    cases hc : nextCall? (s.left i) with
    | none => exact h.dated id
    | some c =>
      have hanswer := revokedAt?_answer (w := { s.world with now := t }) id
        (inOrder_of_underway (h.underway i) hc)
      simp only [Option.toList_some, List.cons_append, List.nil_append, firstRevocation?, ← Option.or_assoc]
      rw [← h.dated id]
      exact hanswer

lemma poolRun_orderly (hindexed : Indexed w.keys) (turns : List (Instant × ι)) :
    Orderly hash w requests (poolRun (Pool.start hash w requests) turns).1
      (poolRun (Pool.start hash w requests) turns).2 := by
  induction turns with
  | nil => exact ⟨fun i => .waiting (requests i), hindexed, fun id => (Option.or_none).symm⟩
  | cons last earlier ih => exact orderly_turn ih last.1 last.2

lemma poolRun_done {r : Except AuthError KeyReply} {i : ι} (h : s.left i = .done r)
    (turns : List (Instant × ι)) :
    (poolRun s turns).1.left i = .done r := by
  induction turns with
  | nil => exact h
  | cons last earlier ih => exact turn_done last.1 last.2 ih

/-- Every turn of its own brings a revocation closer to its answer, whatever others do in between. -/
lemma poolRun_settling {i : ι} (h : Settling id n (s.left i)) (hfiled : s.world.keys.get? id ≠ none)
    (turns : List (Instant × ι)) :
    Settling id (n - turns.countP fun x => x.2 = i) ((poolRun s turns).1.left i) := by
  induction turns with
  | nil => exact h
  | cons last earlier ih =>
    obtain ⟨t, j⟩ := last
    simp only [poolRun]
    by_cases hj : i = j
    · subst hj
      obtain ⟨k, hk⟩ := Option.ne_none_iff_exists'.1 hfiled
      have hkept : (poolRun s earlier).1.world.keys.get? id ≠ none := by
        rw [poolRun_filed s earlier hk]
        exact Option.some_ne_none _
      rw [turn_left_self, List.countP_cons_of_pos (by simp), ← Nat.sub_sub]
      exact settling_step (w := { (poolRun s earlier).1.world with now := t }) ih hkept
    · rw [turn_left_other _ t hj, List.countP_cons_of_neg (by simpa using Ne.symm hj)]
      exact ih

lemma firstRevocation?_of_mem {calls : List Call} {moment : Instant} (h : .revokeKey id moment ∈ calls) :
    firstRevocation? id calls ≠ none := by
  induction calls with
  | nil => cases h
  | cons c earlier ih =>
    rw [firstRevocation?, ne_eq, Option.or_eq_none_iff, not_and_or]
    rcases List.mem_cons.1 h with rfl | h
    · exact Or.inr (by simp [revocation?])
    · exact Or.inl (ih h)

/-- No key of a hash can be used any more: whatever key there is, it is revoked, be it from the start, or a
call to revoke it has been made. -/
def Spent (st : ApiKeyStore) (calls : List Call) (digest : String) : Prop :=
  ∀ id k, st.get? id = some k → k.tokenHash = digest → k.revokedAt ≠ none ∨
    ∃ moment, .revokeKey id moment ∈ calls

omit [DecidableEq ι] in
lemma findLive_of_spent {calls : List Call} {digest : String} (h : Orderly hash w requests s calls)
    (hspent : Spent s.world.keys calls digest) :
    ((s.world.keys.findByHash? digest).filter fun k => !k.isRevoked) = none := by
  rw [Option.filter_eq_none_iff]
  intro k hfound
  obtain ⟨hk, hdigest⟩ := (findByHash?_eq_some_iff h.indexed).1 hfound
  rw [Bool.not_eq_true', isRevoked_eq_false_iff]
  rcases hspent k.id k hk hdigest with hrevoked | ⟨moment, hcall⟩
  · exact hrevoked
  · have hdated : k.revokedAt = (revokedAt? w.keys k.id).or (firstRevocation? k.id calls) := by
      rw [← h.dated k.id, revokedAt?, hk]
      rfl
    rw [hdated, Option.or_eq_none_iff]
    exact fun hnone => firstRevocation?_of_mem hcall hnone.2

lemma authenticate_unfound {token : String} (m : Http.Method)
    (h : ((w.keys.findByHash? (hash (Text.trim token))).filter fun k => !k.isRevoked) = none) :
    w.perform (keyProcedure hash (.authenticate token m)) = (some (.error .notAuthenticated), w) := by
  rw [perform_keyProcedure]
  show replying _ (w.perform (ApiKey.authenticate hash token m).run) = _
  rw [perform_authenticateKey, h]
  split <;> rfl

lemma authenticate_spent {calls : List Call} {i : ι} {token : String} {m : Http.Method}
    (h : Orderly hash w requests s calls) (hrequest : requests i = .authenticate token m)
    (hlookup : nextCall? (s.left i) = some (.findKey (hash (Text.trim token))))
    (hspent : Spent s.world.keys calls (hash (Text.trim token))) (t : Instant) :
    (s.turn t i).left i = .done (.error .notAuthenticated) := by
  have hwaiting := waiting_of_search (h.underway i) hlookup id fun _ _ hc => Call.noConfusion hc
  rw [hrequest] at hwaiting
  rw [turn_left_self, hwaiting]
  have hanswer := authenticate_unfound (w := { s.world with now := t }) m (findLive_of_spent h hspent)
  rw [← perform_step] at hanswer
  refine done_of_no_call ?_ hanswer
  rcases begins_authenticate hash token m with ⟨r, hdone⟩ | ⟨next, hcall, hnext⟩
  · rw [hdone]
    exact .done r
  · rw [hcall]
    exact hnext _

lemma revoke_found {calls : List Call} {i : ι} {owner : Principal} (h : Orderly hash w requests s calls)
    (hrequest : requests i = .revoke owner id)
    (hlookup : nextCall? (s.left i) = some (.getKey (Text.trim id)))
    (hk : s.world.keys.get? (Text.trim id) = some k) (howner : k.userId = owner.userId) (t : Instant) :
    ∃ n, n ≤ 2 ∧ Settling (Text.trim id) n ((s.turn t i).left i) ∧
      (s.turn t i).world.keys.get? (Text.trim id) = some k := by
  have hwaiting := waiting_of_search (h.underway i) hlookup (fun hc => hc) fun _ _ hc => Call.noConfusion hc
  rw [hrequest] at hwaiting
  rw [turn_left_self, turn_keys, hlookup, hwaiting]
  rcases begins_revoke hash owner id with ⟨r, hdone⟩ | ⟨next, hcall, hnext⟩
  · rw [hwaiting, hdone] at hlookup
    cases hlookup
  · rw [hcall]
    rcases hnext (.ok (some k)) with ⟨_, hother⟩ | ⟨_, n, _, hn, hsettling⟩
    · exact absurd howner (hother k rfl)
    · refine ⟨n, hn, ?_, hk⟩
      simp only [Procedure.step, World.answer, hk]
      exact hsettling

/-- Let requests to the keys be under way in any number, and give them turns in any order at any readings of
the clock, each turn for one call. Then a key is revoked at the instant that the first call to revoke it
carried, and no key is ever removed or changed but for that date, which is for good once it is there. A
token that is looked up after a call to revoke its key was made is refused just as one that there is no key
for. A request that finds a key of the owner's to revoke is never answered but with success, and it is
answered with its second turn after that at the latest. -/
theorem revocation_permanent_interleaved (hash : String → String) (requests : ι → KeyStep) (w : World)
    (hindexed : Indexed w.keys) (earlier : List (Instant × ι)) :
    let before := poolRun (Pool.start hash w requests) earlier
    (∀ id, revokedAt? before.1.world.keys id = (revokedAt? w.keys id).or (firstRevocation? id before.2)) ∧
    (∀ id k later, before.1.world.keys.get? id = some k →
      let after := poolRun before.1 later
      after.1.world.keys.get? id = some { k with revokedAt := k.revokedAt.or (firstRevocation? id after.2) } ∧
        (k.revokedAt ≠ none → after.1.world.keys.get? id = some k)) ∧
    (∀ i token m t later, requests i = .authenticate token m →
      nextCall? (before.1.left i) = some (.findKey (hash (Text.trim token))) →
      Spent before.1.world.keys before.2 (hash (Text.trim token)) →
      (poolRun (before.1.turn t i) later).1.left i = .done (.error .notAuthenticated)) ∧
    (∀ i owner id k t later, requests i = .revoke owner id →
      nextCall? (before.1.left i) = some (.getKey (Text.trim id)) →
      before.1.world.keys.get? (Text.trim id) = some k → k.userId = owner.userId →
      let p := (poolRun (before.1.turn t i) later).1.left i
      (nextCall? p ≠ none ∨ p = .done (.ok .revoked)) ∧
        (2 ≤ later.countP (fun x => x.2 = i) → p = .done (.ok .revoked))) := by
  intro before
  have horderly : Orderly hash w requests before.1 before.2 := poolRun_orderly hindexed earlier
  refine ⟨horderly.dated, fun id k later hk => ?_, fun i token m t later hrequest hlookup hspent => ?_,
    fun i owner id k t later hrequest hlookup hk howner => ?_⟩
  · have hafter := poolRun_filed before.1 later hk
    refine ⟨hafter, fun hrevoked => ?_⟩
    obtain ⟨moment, hmoment⟩ := Option.ne_none_iff_exists'.1 hrevoked
    rw [hafter, hmoment, Option.some_or, ← hmoment]
  · exact poolRun_done (authenticate_spent horderly hrequest hlookup hspent t) later
  · obtain ⟨n, hn, hsettling, hfiled⟩ := revoke_found horderly hrequest hlookup hk howner t
    have hafter := poolRun_settling hsettling (by rw [hfiled]; exact Option.some_ne_none k) later
    refine ⟨settling_answer hafter, fun hturns => ?_⟩
    rw [Nat.sub_eq_zero_of_le (hn.trans hturns)] at hafter
    exact settled_answer hafter

/-- A key is made, revoked twice and tried. -/
def rushedRequests : Fin 4 → KeyStep
  | 0 => .create ⟨"u", "r"⟩ "door" "read"
  | 1 => .revoke ⟨"u", "r"⟩ "key_aa"
  | 2 => .revoke ⟨"u", "r"⟩ " key_aa"
  | 3 => .authenticate "sk_a" ⟨"GET"⟩

/-- The key is made, and the one who revokes it first has found it. -/
def rushedBefore : List (Instant × Fin 4) :=
  [(atSecond 20, 1), (atSecond 10, 0), (atSecond 10, 0), (atSecond 10, 0), (atSecond 10, 0)]

/-- Both look at the clock, and the one who does so later writes first. -/
def rushedAfter : List (Instant × Fin 4) :=
  [(atSecond 60, 1), (atSecond 50, 2), (atSecond 40, 2), (atSecond 30, 1)]

def rushedRun (turns : List (Instant × Fin 4)) : Pool (Fin 4) × List Call :=
  poolRun (Pool.start tokenHash { doorWorld with keys := ApiKeyStore.empty } rushedRequests) turns

/-- Two revocations are both past their check before one of them is written, and the key is tried then. -/
theorem revocation_permanent_interleaved_rushed :
    let checked := (rushedRun rushedBefore).1.turn (atSecond 21) 2
    let revoked := rushedRun (rushedAfter ++ (atSecond 21, 2) :: rushedBefore)
    (poolRun checked rushedAfter).1.left 2 = .done (.ok .revoked) ∧
      revokedAt? revoked.1.world.keys "key_aa" = some (atSecond 40) ∧
      (revoked.1.turn (atSecond 70) 3).left 3 = .done (.error .notAuthenticated) := by
  intro checked revoked
  have hchecked := revocation_permanent_interleaved tokenHash rushedRequests
    { doorWorld with keys := ApiKeyStore.empty } indexed_empty rushedBefore
  have hrevoked := revocation_permanent_interleaved tokenHash rushedRequests
    { doorWorld with keys := ApiKeyStore.empty } indexed_empty
      (rushedAfter ++ (atSecond 21, 2) :: rushedBefore)
  have hspent : Spent revoked.1.world.keys revoked.2 (tokenHash "sk_a") := by
    intro id k hk _
    have hentries : revoked.1.world.keys.keys.entries.map Prod.fst = ["key_aa"] := by decide +kernel
    have hid : id ∈ revoked.1.world.keys.keys.entries.map Prod.fst :=
      List.mem_map_of_mem (Table.get?_eq_some_iff.1 hk)
    rw [hentries, List.mem_singleton] at hid
    rw [hid]
    exact Or.inr ⟨atSecond 40, by decide +kernel⟩
  refine ⟨?_, ?_, ?_⟩
  · exact (hchecked.2.2.2 2 ⟨"u", "r"⟩ " key_aa" doorCreated.key (atSecond 21) rushedAfter rfl
      (by decide +kernel) (by decide +kernel) rfl).2 (by decide)
  · refine (hrevoked.1 "key_aa").trans ?_
    decide +kernel
  · exact hrevoked.2.2.1 3 "sk_a" ⟨"GET"⟩ (atSecond 70) [] rfl (by decide +kernel) hspent

end Gatehouse.Proofs
