/-!
# Who is asking

The identity that a request has once its credentials hold, and which kind of credentials they were.
-/

namespace Gatehouse

structure Principal where
  userId : String
  role : String
deriving DecidableEq, Repr

inductive AuthMethod where
  | apiKey
  | session
deriving DecidableEq, Repr

def AuthMethod.name : AuthMethod → String
  | apiKey => "api_key"
  | session => "session"

end Gatehouse
