import Gatehouse.Http.Address
import Gatehouse.Http.Header
import Gatehouse.Json.Writer

/-!
# Requests and responses

Of a request's target only the path is kept. The body of a request is bytes, that of a response is text.
-/

namespace Gatehouse.Http

structure Request where
  method : Method
  path : List Char
  headers : Headers := []
  body : List UInt8 := []
  peer : Option Address := none

structure Response where
  status : Nat
  headers : List (String × String) := []
  body : String := ""
deriving DecidableEq, Repr

namespace Response

def json (status : Nat) (v : Json) : Response where
  status := status
  headers := [("content-type", "application/json")]
  body := v.compact

def plain (status : Nat) (text : String) : Response where
  status := status
  headers := [("content-type", "text/plain; charset=utf-8")]
  body := text

def addHeader (r : Response) (name value : String) : Response :=
  { r with headers := r.headers ++ [(name, value)] }

def hasHeader (r : Response) (name : String) : Bool := r.headers.any fun h => h.1 = name

/-- The response with its length told. -/
def withLength (r : Response) : Response :=
  r.addHeader "content-length" (toString r.body.utf8ByteSize)

/-- The response to a request for the head alone. -/
def withoutBody (r : Response) : Response := { r with body := "" }

/-- Tells which methods a path knows. -/
def withAllow (r : Response) (methods : String) : Response :=
  if r.hasHeader "allow" then r else r.addHeader "allow" methods

def notFound : Response := { status := 404 }

def methodNotAllowed (methods : String) : Response := { status := 405, headers := [("allow", methods)] }

end Response

end Gatehouse.Http
