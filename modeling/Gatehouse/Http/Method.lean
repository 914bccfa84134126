/-!
# Request methods

A method is a token in any letter case, and case matters: `get` is a method of its own. Three methods ask
for nothing to be changed and are called safe.
-/

namespace Gatehouse.Http

/-- Characters of methods and of header names. -/
def isTokenChar (c : Char) : Bool :=
  ('a' ≤ c && c ≤ 'z') || ('A' ≤ c && c ≤ 'Z') || ('0' ≤ c && c ≤ '9') ||
  "!#$%&'*+-.^_\x60|~".toList.contains c

def isToken (s : String) : Bool := s != "" && s.toList.all isTokenChar

structure Method where
  name : String
deriving DecidableEq, Repr

namespace Method

def get : Method := ⟨"GET"⟩
def head : Method := ⟨"HEAD"⟩
def options : Method := ⟨"OPTIONS"⟩
def post : Method := ⟨"POST"⟩
def delete : Method := ⟨"DELETE"⟩

def ofName? (s : String) : Option Method := if isToken s then some ⟨s⟩ else none

def isSafe (m : Method) : Bool := m = get || m = head || m = options

end Method

end Gatehouse.Http
