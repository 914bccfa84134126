import Gatehouse.World

/-!
# A world under observation

A stage is a world whose calls are written down and some of which can be made to fail. A call is written down
before it fails. The clock is not observed, and neither is a limiter that is not there.
-/

namespace Gatehouse

/-- What can be made to go wrong. -/
inductive Mishap where
  | save | load | delete | attempt | findUser | verify | verifyPanic
  | insertKey | listKeys | getKey | findKey | revokeKey
  /-- The key that is to be revoked is not found. -/
  | keyVanishes
deriving DecidableEq, Repr

structure Stage where
  world : World
  mishaps : List Mishap := []
  /-- The calls so far, the last one first. -/
  journal : List Call := []

namespace Stage

def injected : StoreFault := .unavailable "injected"

def noted (s : Stage) (c : Call) : Stage := { s with journal := c :: s.journal }

/-- Whether a call leaves a trace in the journal. -/
def isObserved (s : Stage) : Call → Bool
  | .now => false
  | .attempt _ => s.world.limiter.isSome
  | _ => true

/-- The answer of a call that is made to go wrong, if it is. -/
def sabotage? (s : Stage) : (c : Call) → Option c.Answer
  | .now => none
  | .generate _ => none
  | .saveSession _ _ => if .save ∈ s.mishaps then some (.error injected) else none
  | .loadSession _ => if .load ∈ s.mishaps then some (.error injected) else none
  | .deleteSession _ => if .delete ∈ s.mishaps then some (.error injected) else none
  | .attempt _ =>
    if .attempt ∈ s.mishaps ∧ s.world.limiter.isSome then some (.error injected) else none
  | .findUser _ => if .findUser ∈ s.mishaps then some (.error injected) else none
  | .verifyPassword _ _ =>
    if .verify ∈ s.mishaps ∨ .verifyPanic ∈ s.mishaps then some (.error injected) else none
  | .insertKey _ => if .insertKey ∈ s.mishaps then some (.error injected) else none
  | .listKeys _ => if .listKeys ∈ s.mishaps then some (.error injected) else none
  | .getKey _ => if .getKey ∈ s.mishaps then some (.error injected) else none
  | .findKey _ => if .findKey ∈ s.mishaps then some (.error injected) else none
  | .revokeKey _ _ =>
    if .revokeKey ∈ s.mishaps then some (.error injected)
    else if .keyVanishes ∈ s.mishaps then some (.ok false)
    else none

def answer : Backend Stage := fun c s =>
  let s := if s.isObserved c then s.noted c else s
  match s.sabotage? c with
  | some r => (some r, s)
  | none =>
    let (r, world) := s.world.answer c
    (r, { s with world })

/-- Runs a procedure on the stage. -/
def perform (s : Stage) (p : Procedure α) : Option α × Stage := p.run answer s

/-- The calls written down so far, in order, and the stage with an empty journal. -/
def takeJournal (s : Stage) : List Call × Stage := (s.journal.reverse, { s with journal := [] })

end Stage

end Gatehouse
