import Gatehouse.Table
import Gatehouse.Text.Blank
import Gatehouse.Text.Lowercase

/-!
# Users

Users are filed under their email address in normal form, without blanks around it and in lower case. Of two
users with one address the later counts.
-/

namespace Gatehouse

structure User where
  id : String
  email : String
  passwordHash : String
  role : String
deriving DecidableEq, Repr

def normalEmail (s : String) : String := Text.lower (Text.trim s)

abbrev UserStore := Table String User

namespace UserStore

def add (users : UserStore) (u : User) : UserStore :=
  users.insert (normalEmail u.email) { u with email := normalEmail u.email }

/-- The user with an address that is in normal form. -/
def findByEmail? (users : UserStore) (email : String) : Option User := users.get? email

end UserStore

end Gatehouse
