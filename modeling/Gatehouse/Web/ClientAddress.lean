import Gatehouse.Http.Message
import Gatehouse.Text.Blank
import Gatehouse.Text.Split

/-!
# The address of a client

Behind a trusted proxy the client's address is in a header; otherwise it is the address of the connection.
-/

namespace Gatehouse

open Http Text

/-- The first address of a list in the first header of a name. -/
def forwardedFor? (hs : Headers) : Option String := do
  let addresses ← hs.firstText? "x-forwarded-for"
  let address := trimChars ((pieces ',' addresses).headD [])
  if address = [] then none else some (String.ofList address)

def realIp? (hs : Headers) : Option String := do
  let address := trimChars (← hs.firstText? "x-real-ip")
  if address = [] then none else some (String.ofList address)

def clientAddress? (trustProxy : Bool) (req : Request) : Option String :=
  let told := if trustProxy then (forwardedFor? req.headers).or (realIp? req.headers) else none
  told.or (req.peer.map Address.text)

end Gatehouse
