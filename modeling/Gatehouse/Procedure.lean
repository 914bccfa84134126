import Gatehouse.ApiKey.Basic
import Gatehouse.RateLimit.Limiter
import Gatehouse.Session.Basic
import Gatehouse.StoreFault
import Gatehouse.User

/-!
# Procedures

What the services do is written as trees of calls: to the clock, to the source of tokens, to the stores. A
procedure goes on with the answer to a call and with nothing else, so the order of its calls is part of it,
and it can be run against any backend, or step by step in turn with others. It may also break down, when time
arithmetic leaves the range of instants; then it has no result.
-/

namespace Gatehouse

inductive Call where
  | now
  | generate (bytes : Nat)
  | saveSession (session : Session) (ttl : Span)
  | loadSession (id : String)
  | deleteSession (id : String)
  | attempt (key : String)
  | findUser (email : String)
  | verifyPassword (password hash : String)
  | insertKey (key : ApiKey)
  | listKeys (userId : String)
  | getKey (id : String)
  | findKey (hash : String)
  | revokeKey (id : String) (moment : Instant)
deriving DecidableEq

/-- What a call is answered with. -/
abbrev Call.Answer : Call → Type
  | .now => Instant
  | .generate _ => String
  | .saveSession _ _ => Except StoreFault Unit
  | .loadSession _ => Except StoreFault (Option Session)
  | .deleteSession _ => Except StoreFault Unit
  | .attempt _ => Except StoreFault Decision
  | .findUser _ => Except StoreFault (Option User)
  | .verifyPassword _ _ => Except StoreFault Bool
  | .insertKey _ => Except StoreFault Unit
  | .listKeys _ => Except StoreFault (List ApiKey)
  | .getKey _ => Except StoreFault (Option ApiKey)
  | .findKey _ => Except StoreFault (Option ApiKey)
  | .revokeKey _ _ => Except StoreFault Bool

inductive Procedure (α : Type) where
  | done (result : α)
  | breakdown
  | call (c : Call) (next : c.Answer → Procedure α)

/-- Something that answers calls. No answer means that it broke down, which may leave a trace in its state. -/
abbrev Backend (σ : Type) := (c : Call) → σ → Option c.Answer × σ

namespace Procedure

def bind : Procedure α → (α → Procedure β) → Procedure β
  | .done a, f => f a
  | .breakdown, _ => .breakdown
  | .call c next, f => .call c fun answer => bind (next answer) f

instance : Monad Procedure where
  pure := .done
  bind := bind

theorem bind_done (p : Procedure α) : bind p .done = p := by
  induction p with
  | done a => rfl
  | breakdown => rfl
  | call c next ih => simp only [bind, ih]

theorem bind_bind (p : Procedure α) (f : α → Procedure β) (g : β → Procedure γ) :
    bind (bind p f) g = bind p fun a => bind (f a) g := by
  induction p with
  | done a => rfl
  | breakdown => rfl
  | call c next ih => simp only [bind, ih]

instance : LawfulMonad Procedure :=
  LawfulMonad.mk' Procedure bind_done (fun _ _ => rfl) bind_bind

def ask (c : Call) : Procedure c.Answer := .call c .done

def orBreakdown : Option α → Procedure α
  | some a => .done a
  | none => .breakdown

/-- Runs a procedure to its end. -/
def run (answer : Backend σ) : Procedure α → σ → Option α × σ
  | .done a, s => (some a, s)
  | .breakdown, s => (none, s)
  | .call c next, s =>
    match answer c s with
    | (some r, s) => run answer (next r) s
    | (none, s) => (none, s)

theorem run_bind (answer : Backend σ) (p : Procedure α) (f : α → Procedure β) (s : σ) :
    (p >>= f).run answer s =
      match p.run answer s with
      | (some a, s) => (f a).run answer s
      | (none, s) => (none, s) := by
  show (bind p f).run answer s = _
  induction p generalizing s with
  | done a => rfl
  | breakdown => rfl
  | call c next ih =>
    simp only [bind, run]
    cases answer c s with
    | mk r s =>
      cases r with
      | none => rfl
      | some r => exact ih r s

theorem run_map (answer : Backend σ) (f : α → β) (p : Procedure α) (s : σ) :
    (f <$> p).run answer s = ((p.run answer s).1.map f, (p.run answer s).2) := by
  rw [map_eq_pure_bind, run_bind]
  cases p.run answer s with
  | mk r s => cases r <;> rfl

/-- The type of the answer is kept out of the index of this rule, so that it applies to every call. -/
@[simp] theorem run_ask (answer : Backend σ) (c : Call) (s : σ) :
    @Procedure.run σ (no_index c.Answer) answer (ask c) s = answer c s := by
  simp only [ask, run]
  cases answer c s with
  | mk r s => cases r <;> rfl

@[simp] theorem run_orBreakdown (answer : Backend σ) (a : Option α) (s : σ) :
    (orBreakdown a).run answer s = (a, s) := by
  cases a <;> rfl

/-- What every call keeps is kept by every procedure. -/
theorem run_keeps {answer : Backend σ} {I : σ → Prop} (hkeeps : ∀ c s, I s → I (answer c s).2)
    (p : Procedure α) {s : σ} (hs : I s) : I (p.run answer s).2 := by
  induction p generalizing s with
  | done a => exact hs
  | breakdown => exact hs
  | call c next ih =>
    have hcall := hkeeps c s hs
    unfold run
    generalize answer c s = after at hcall ⊢
    obtain ⟨answered, s'⟩ := after
    cases answered with
    | none => exact hcall
    | some answered => exact ih answered hcall

/-- One call further: the procedure that is left, and the state after the call. A procedure without a call
stays what it is. -/
def step (answer : Backend σ) : Procedure α → σ → Procedure α × σ
  | .done a, s => (.done a, s)
  | .breakdown, s => (.breakdown, s)
  | .call c next, s =>
    match answer c s with
    | (some r, s) => (next r, s)
    | (none, s) => (.breakdown, s)

end Procedure

/-- A procedure that ends with a result or with an error of its own. -/
abbrev Attempt (ε α : Type) := ExceptT ε Procedure α

namespace Attempt

def ask (c : Call) : Attempt ε c.Answer := liftM (Procedure.ask c)

def orBreakdown (a : Option α) : Attempt ε α := liftM (Procedure.orBreakdown a)

def settled (r : Except ε α) : Attempt ε α := ExceptT.mk (.done r)

/-- Goes on with a result, or ends with what an error of a store is to be told as. -/
def orTell (tell : StoreFault → ε) : Except StoreFault α → Attempt ε α
  | .ok a => settled (.ok a)
  | .error e => settled (.error (tell e))

/-- Tells an error in other words. -/
def retell (tell : ε → ε') (p : Attempt ε α) : Attempt ε' α :=
  ExceptT.mk (p.run >>= fun r => .done (r.mapError tell))

end Attempt

end Gatehouse
