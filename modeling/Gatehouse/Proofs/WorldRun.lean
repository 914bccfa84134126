import Gatehouse.Proofs.InstantOrder
import Gatehouse.World

/-!
# Runs in a world

A run takes steps of some kind in a world, each at a clock reading of its own, and tells what happened. What
holds of a world and the history behind it is shown step by step, once and for all runs.
-/

namespace Gatehouse.Proofs

variable {σ α : Type}

/-- A step that was taken, and what was answered. -/
structure Event (σ α : Type) where
  moment : Instant
  step : σ
  answer : α

/-- Runs steps at their clock readings, the last one first in the list. What happened is told in that order
too. -/
def worldRun (take : World → σ → α × World) (w : World) : List (Instant × σ) → World × List (Event σ α)
  | [] => (w, [])
  | (t, step) :: earlier =>
    let before := worldRun take w earlier
    let after := take { before.1 with now := t } step
    (after.2, ⟨t, step, after.1⟩ :: before.2)

lemma worldRun_moments (take : World → σ → α × World) (w : World) (steps : List (Instant × σ)) :
    (worldRun take w steps).2.map Event.moment = steps.map Prod.fst := by
  induction steps with
  | nil => rfl
  | cons last earlier ih => exact congrArg (last.1 :: ·) ih

lemma worldRun_keeps {take : World → σ → α × World} {P : World → List (Event σ α) → Prop} {w : World}
    (hstart : P w [])
    (hstep : ∀ (w : World) (events : List (Event σ α)) (t : Instant) (step : σ), P w events →
      P (take { w with now := t } step).2 (⟨t, step, (take { w with now := t } step).1⟩ :: events))
    (steps : List (Instant × σ)) : P (worldRun take w steps).1 (worldRun take w steps).2 := by
  induction steps with
  | nil => exact hstart
  | cons last earlier ih => exact hstep _ _ last.1 last.2 ih

end Gatehouse.Proofs
