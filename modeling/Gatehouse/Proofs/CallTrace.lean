import Gatehouse.Proofs.AttemptRun

/-!
# The calls of a procedure

Which calls a procedure can make at all, whatever it is answered, is read off its text; which ones it does
make in a world, and what the world is like at each of them, comes out as it is performed. What every call of
a kind leaves alone is left alone by every procedure that is held to calls of that kind.
-/

namespace Gatehouse.Proofs
open Attempt

variable {ε ε' α β γ : Type} {P Q : Call → Prop}

/-- Every call that a procedure can make is of a certain kind. -/
inductive Only (P : Call → Prop) {α : Type} : Procedure α → Prop
  | done (a : α) : Only P (.done a)
  | breakdown : Only P .breakdown
  | call {c : Call} {next : c.Answer → Procedure α} (h : P c) (hnext : ∀ answer, Only P (next answer)) :
    Only P (.call c next)

lemma only_mono (hPQ : ∀ c, P c → Q c) {p : Procedure α} (h : Only P p) : Only Q p := by
  induction h with
  | done a => exact .done a
  | breakdown => exact .breakdown
  | call h _ ih => exact .call (hPQ _ h) ih

lemma only_any (p : Procedure α) : Only (fun _ => True) p := by
  induction p with
  | done a => exact .done a
  | breakdown => exact .breakdown
  | call c next ih => exact .call trivial ih

lemma only_then {p : Procedure α} {f : α → Procedure β} (h : Only P p) (hf : ∀ a, Only P (f a)) :
    Only P (p >>= f) := by
  show Only P (Procedure.bind p f)
  induction h with
  | done a => exact hf a
  | breakdown => exact .breakdown
  | call h _ ih => exact .call h ih

lemma only_bind {p : Attempt ε α} {f : α → Attempt ε β} (h : Only P p.run) (hf : ∀ a, Only P (f a).run) :
    Only P (p >>= f).run := by
  refine only_then h fun r => ?_
  cases r with
  | ok a => exact hf a
  | error e => exact .done _

lemma only_ask {c : Call} (h : P c) :
    Only P (@ExceptT.run ε Procedure (no_index c.Answer) (ask c)) :=
  .call h fun _ => .done _

lemma only_orBreakdown (a : Option α) : Only P (orBreakdown a : Attempt ε α).run := by
  cases a with
  | none => exact .breakdown
  | some a => exact .done _

lemma only_orTell (tell : StoreFault → ε) (r : Except StoreFault α) : Only P (orTell tell r).run := by
  cases r with
  | ok a => exact .done _
  | error e => exact .done _

lemma only_retell (tell : ε → ε') {p : Attempt ε α} (h : Only P p.run) : Only P (retell tell p).run :=
  only_then h fun _ => .done _

/-- What every call of a kind leaves alone, a procedure of such calls leaves alone. -/
lemma only_keeps {f : World → γ} (hkeeps : ∀ c w, P c → f (World.answer c w).2 = f w)
    {p : Procedure α} (h : Only P p) (w : World) : f (w.perform p).2 = f w := by
  induction h generalizing w with
  | done a => rfl
  | breakdown => rfl
  | @call c next h _ ih =>
    have hcall := hkeeps c w h
    unfold World.perform Procedure.run
    generalize World.answer c w = after at hcall ⊢
    obtain ⟨answer, w'⟩ := after
    cases answer with
    | none => exact hcall
    | some answer => exact (ih answer w').trans hcall

lemma perform_keeps {I : World → Prop} (hkeeps : ∀ c w, I w → I (World.answer c w).2)
    (p : Procedure α) {w : World} (hw : I w) : I (w.perform p).2 :=
  Procedure.run_keeps hkeeps p hw

/-- If calls of a kind are answered alike in a world and in a changed one, and leave the change as it is, so
is a procedure of such calls, and so does it. -/
lemma only_commutes {change : World → World}
    (hchange : ∀ c w, P c → World.answer c (change w) = ((World.answer c w).1, change (World.answer c w).2))
    {p : Procedure α} (h : Only P p) (w : World) :
    (change w).perform p = ((w.perform p).1, change (w.perform p).2) := by
  induction h generalizing w with
  | done a => rfl
  | breakdown => rfl
  | @call c next hc _ ih =>
    unfold World.perform Procedure.run
    rw [hchange c w hc]
    generalize World.answer c w = after
    obtain ⟨answer, w'⟩ := after
    cases answer with
    | none => rfl
    | some answer => exact ih answer w'

/-- What a call may leave behind: the world as it was, or one part of it in another state. -/
inductive CallLeaves (w : World) : Call → World → Prop
  | same (c : Call) : CallLeaves w c w
  | generated (bytes : Nat) (tokens : TokenSource) : CallLeaves w (.generate bytes) { w with tokens }
  | saved (s : Session) (ttl : Span) (sessions : SessionStore) :
    CallLeaves w (.saveSession s ttl) { w with sessions }
  | loaded (id : String) (sessions : SessionStore) : CallLeaves w (.loadSession id) { w with sessions }
  | deleted (id : String) (sessions : SessionStore) : CallLeaves w (.deleteSession id) { w with sessions }
  | attempted (key : String) (limiter : Option Limiter) : CallLeaves w (.attempt key) { w with limiter }
  | inserted (k : ApiKey) (keys : ApiKeyStore) : CallLeaves w (.insertKey k) { w with keys }
  | revoked (id : String) (moment : Instant) (keys : ApiKeyStore) :
    CallLeaves w (.revokeKey id moment) { w with keys }

lemma answer_leaves (c : Call) (w : World) : CallLeaves w c (World.answer c w).2 := by
  cases c with
  | generate bytes => exact .generated bytes _
  | saveSession s ttl =>
    simp only [World.answer, World.saveSession]
    split
    · exact .same _
    · exact .same _
    · exact .saved s ttl _
  | loadSession id => exact .loaded id _
  | deleteSession id => exact .deleted id _
  | attempt key =>
    simp only [World.answer, World.attempt]
    split
    · exact .same _
    · exact .attempted key _
  | insertKey k =>
    simp only [World.answer, World.insertKey]
    split
    · exact .same _
    · exact .inserted k _
  | revokeKey id moment => exact .revoked id moment _
  | _ => exact .same _

lemma now_answer (c : Call) (w : World) : (World.answer c w).2.now = w.now := by
  have hleaves := answer_leaves c w
  generalize (World.answer c w).2 = w' at hleaves ⊢
  cases hleaves <;> rfl

lemma now_perform (w : World) (p : Procedure α) : (w.perform p).2.now = w.now :=
  only_keeps (fun c w _ => now_answer c w) (only_any p) w

/-- The calls that a procedure makes, each with the world that it is put to. -/
def callsOf (w : World) : Procedure α → List (Call × World)
  | .done _ => []
  | .breakdown => []
  | .call c next =>
    (c, w) ::
      match World.answer c w with
      | (some answer, w) => callsOf w (next answer)
      | (none, _) => []

lemma callsOf_call (w : World) (c : Call) (next : c.Answer → Procedure α) :
    callsOf w (.call c next) =
      (c, w) ::
        match World.answer c w with
        | (some answer, w) => callsOf w (next answer)
        | (none, _) => [] := by
  rw [callsOf]

lemma only_callsOf {p : Procedure α} (h : Only P p) (w : World) : ∀ x ∈ callsOf w p, P x.1 := by
  induction h generalizing w with
  | done a => exact fun x hx => absurd hx List.not_mem_nil
  | breakdown => exact fun x hx => absurd hx List.not_mem_nil
  | call h _ ih =>
    intro x hx
    rw [callsOf_call] at hx
    rcases List.mem_cons.1 hx with rfl | hx
    · exact h
    · split at hx
      · rename_i answer w' _
        exact ih answer w' x hx
      · exact absurd hx List.not_mem_nil

/-- A sequence makes the calls of its first part, and then those of the second if it gets there. -/
lemma callsOf_then (w : World) (p : Procedure α) (f : α → Procedure β) :
    callsOf w (p >>= f) = callsOf w p ++
      match w.perform p with
      | (some a, w') => callsOf w' (f a)
      | (none, _) => [] := by
  show callsOf w (Procedure.bind p f) = _
  induction p generalizing w with
  | done a => rfl
  | breakdown => rfl
  | call c next ih =>
    unfold World.perform Procedure.run
    rw [Procedure.bind, callsOf_call, callsOf_call, List.cons_append]
    refine congrArg _ ?_
    cases World.answer c w with
    | mk answer w' =>
      cases answer with
      | none => rfl
      | some answer => exact ih answer w'

lemma mem_callsOf_then {w : World} {p : Procedure α} {f : α → Procedure β} {x : Call × World} :
    x ∈ callsOf w (p >>= f) ↔
      x ∈ callsOf w p ∨ ∃ a w', w.perform p = (some a, w') ∧ x ∈ callsOf w' (f a) := by
  rw [callsOf_then, List.mem_append]
  refine or_congr_right ?_
  obtain ⟨r, w'⟩ := w.perform p
  cases r with
  | none => simp
  | some a =>
    constructor
    · exact fun hx => ⟨a, w', rfl, hx⟩
    · rintro ⟨_, _, hrun, hx⟩
      cases hrun
      exact hx

lemma mem_callsOf_bind {w : World} {p : Attempt ε α} {f : α → Attempt ε β} {x : Call × World} :
    x ∈ callsOf w (p >>= f).run ↔
      x ∈ callsOf w p.run ∨ ∃ a w', w.perform p.run = (some (.ok a), w') ∧ x ∈ callsOf w' (f a).run := by
  rw [show callsOf w (p >>= f).run = callsOf w (p.run >>= ExceptT.bindCont f) from rfl, mem_callsOf_then]
  refine or_congr_right ⟨?_, fun ⟨a, w', hrun, hx⟩ => ⟨.ok a, w', hrun, hx⟩⟩
  rintro ⟨r, w', hrun, hx⟩
  cases r with
  | ok a => exact ⟨a, w', hrun, hx⟩
  | error e => exact absurd hx List.not_mem_nil

end Gatehouse.Proofs
