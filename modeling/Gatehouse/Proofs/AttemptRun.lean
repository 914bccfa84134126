import Gatehouse.World
import Mathlib.Tactic.Lemma

/-!
# Attempts in a world

How a world performs an attempt, one rule for every way of building one. With these rules a service is
unfolded into the answers of the world to its calls, and no proof has to open the procedures themselves.
-/

namespace Gatehouse.Proofs
open Attempt

variable {ε ε' α β : Type}

lemma perform_then (w : World) (p : Procedure α) (f : α → Procedure β) :
    w.perform (p >>= f) =
      match w.perform p with
      | (some a, w') => w'.perform (f a)
      | (none, w') => (none, w') := by
  unfold World.perform
  rw [Procedure.run_bind]
  split <;> rename_i h <;> rw [h]

/-- What follows a procedure and changes nothing can be left out. -/
lemma perform_then_snd (w : World) (p : Procedure α) {f : α → Procedure β}
    (hf : ∀ a (w : World), (w.perform (f a)).2 = w) : (w.perform (p >>= f)).2 = (w.perform p).2 := by
  rw [perform_then]
  generalize w.perform p = ending
  obtain ⟨r, w'⟩ := ending
  cases r with
  | none => rfl
  | some a => exact hf a w'

lemma mapError_ok (f : ε → ε') (a : α) : (Except.ok a).mapError f = .ok a := rfl

lemma perform_bind (w : World) (p : Attempt ε α) (f : α → Attempt ε β) :
    w.perform (p >>= f).run =
      match w.perform p.run with
      | (some (.ok a), w') => w'.perform (f a).run
      | (some (.error e), w') => (some (.error e), w')
      | (none, w') => (none, w') := by
  show (p.run >>= ExceptT.bindCont f).run World.answer w = _
  rw [Procedure.run_bind]
  unfold World.perform
  split <;> rename_i h <;> rw [h]
  rename_i r _
  cases r <;> rfl

/-- As with `Procedure.run_ask`, the type of the answer is kept out of the index of this rule. -/
lemma perform_ask (w : World) (c : Call) :
    @World.perform (no_index (Except ε c.Answer)) w (@ExceptT.run ε Procedure (no_index c.Answer) (ask c)) =
      ((World.answer c w).1.map .ok, (World.answer c w).2) := by
  show (Except.ok <$> Procedure.ask c).run World.answer w = _
  rw [Procedure.run_map, Procedure.run_ask]

lemma perform_orBreakdown (w : World) (a : Option α) :
    w.perform (orBreakdown a : Attempt ε α).run = (a.map .ok, w) := by
  cases a <;> rfl

lemma perform_settled (w : World) (r : Except ε α) : w.perform (settled r).run = (some r, w) := rfl

lemma perform_orTell (w : World) (tell : StoreFault → ε) (r : Except StoreFault α) :
    w.perform (orTell tell r).run = (some (r.mapError tell), w) := by
  cases r <;> rfl

lemma perform_retell (w : World) (tell : ε → ε') (p : Attempt ε α) :
    w.perform (retell tell p).run = ((w.perform p.run).1.map (·.mapError tell), (w.perform p.run).2) := by
  show (p.run >>= fun r => .done (r.mapError tell)).run World.answer w = _
  rw [Procedure.run_bind]
  unfold World.perform
  split <;> rename_i h <;> rw [h] <;> rfl

end Gatehouse.Proofs
