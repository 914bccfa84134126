import Gatehouse.Error
import Gatehouse.Http.Method
import Gatehouse.Text.Blank

/-!
# What an API key may do

A key may be good for safe methods, for all others, or for both.
-/

namespace Gatehouse

inductive Scope where
  | read | write | readWrite
deriving DecidableEq, Repr

namespace Scope

def name : Scope → String
  | read => "read"
  | write => "write"
  | readWrite => "read_write"

def allows (s : Scope) (m : Http.Method) : Bool :=
  match s with
  | read => m.isSafe
  | write => !m.isSafe
  | readWrite => true

def ofName? (s : String) : Option Scope :=
  if s = "read" then some .read
  else if s = "write" then some .write
  else if s = "read_write" then some .readWrite
  else none

/-- The scope that a caller asks for. Nothing but blanks asks for everything. -/
def ofText (s : String) : Except AuthError Scope :=
  let s := Text.trim s
  if s = "" then .ok .readWrite
  else
    match ofName? s with
    | some scope => .ok scope
    | none => .error (.invalidInput "invalid scope")

theorem ofName?_name (s : Scope) : ofName? s.name = some s := by cases s <;> rfl

end Scope

end Gatehouse
