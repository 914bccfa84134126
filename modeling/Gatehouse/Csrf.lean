import Gatehouse.Http.Header
import Gatehouse.Text.Blank
import Gatehouse.Token

/-!
# Cross-site request forgery

A session comes with a token that a cookie cannot carry. A request that may change something has to send
it back in a header of its own.
-/

namespace Gatehouse.Csrf

open Gatehouse.Http

def headerName : String := "x-csrf-token"

def requiresToken (m : Method) : Bool := !m.isSafe

/-- The token in a request's headers, without the blanks around it. -/
def headerToken? (hs : Headers) : Option String := do
  let token := Text.trimChars (← hs.firstText? headerName)
  if token = [] then none else some (String.ofList token)

/-- Whether a request may go on. Neither an empty token nor an empty expectation ever agrees. -/
def verify (m : Method) (provided : Option String) (expected : String) : Bool :=
  if requiresToken m then
    match provided with
    | some token => token != "" && expected != "" && sameSecret token expected
    | none => false
  else true

theorem verify_iff {m : Method} {provided : Option String} {expected : String} :
    verify m provided expected ↔ m.isSafe ∨ (provided = some expected ∧ expected ≠ "") := by
  cases safe : m.isSafe
  · cases provided with
    | none => simp [verify, requiresToken, safe]
    | some token =>
      simp only [verify, requiresToken, safe, Bool.not_false, if_true, Bool.and_eq_true, bne_iff_ne,
        sameSecret_iff, Option.some.injEq, Bool.false_eq_true, false_or]
      constructor
      · exact fun h => ⟨h.2, h.1.2⟩
      · rintro ⟨rfl, h⟩
        exact ⟨⟨h, h⟩, rfl⟩
  · simp [verify, requiresToken, safe]

end Gatehouse.Csrf
