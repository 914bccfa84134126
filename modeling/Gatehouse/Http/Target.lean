import Gatehouse.Http.Method

/-!
# Request targets

A target is a path with an optional query, a star, an authority alone, or an absolute address. Of any of them
only the path matters here: an address without a path has the path `/`, an authority alone has an empty one.
-/

namespace Gatehouse.Http

def maxTargetBytes : Nat := 65534

def maxSchemeLength : Nat := 64

/-- Characters of a path. Quotation marks and braces ought to be encoded but are let through. -/
def isPathChar (c : Char) : Bool :=
  let n := c.toNat
  n == 0x21 || (0x24 ≤ n && n ≤ 0x3B) || n == 0x3D || (0x40 ≤ n && n ≤ 0x5F) || (0x61 ≤ n && n ≤ 0x7A) ||
  n == 0x7C || n == 0x7E || 0x7F ≤ n || n == 0x22 || n == 0x7B || n == 0x7D

def isQueryChar (c : Char) : Bool :=
  let n := c.toNat
  n == 0x21 || (0x24 ≤ n && n ≤ 0x3B) || n == 0x3D || 0x3F ≤ n

/-- The path in front of a query or a fragment, if every character of path and query is allowed. -/
def pathAndQuery? (cs : List Char) : Option (List Char) :=
  let path := cs.takeWhile fun c => c != '?' && c != '#'
  let query :=
    match cs.drop path.length with
    | '?' :: rest => rest.takeWhile (· != '#')
    | _ => []
  if path.all isPathChar && query.all isQueryChar then some path else none

def isSchemeChar (c : Char) : Bool :=
  ('a' ≤ c && c ≤ 'z') || ('A' ≤ c && c ≤ 'Z') || ('0' ≤ c && c ≤ '9') || c == '+' || c == '-' || c == '.'

inductive Scheme where
  | absent
  | tooLong
  /-- The text behind the scheme and its `://`. -/
  | present (rest : List Char)

def scheme (cs : List Char) : Scheme :=
  let name := cs.takeWhile isSchemeChar
  match cs.drop name.length with
  | ':' :: '/' :: '/' :: rest =>
    if cs.length ≤ 3 then .absent
    else if maxSchemeLength < name.length then .tooLong
    else .present rest
  | _ => .absent

def isAuthorityChar (c : Char) : Bool :=
  ('a' ≤ c && c ≤ 'z') || ('A' ≤ c && c ≤ 'Z') || ('0' ≤ c && c ≤ '9') ||
  "!$&'()*+,-.:;=@[]_~%".toList.contains c

/-- What has been seen of an authority. Colons and percent signs before an `@` or inside brackets do not
count in the end. -/
structure AuthorityScan where
  colons : Nat := 0
  opened : Bool := false
  closed : Bool := false
  percent : Bool := false
  last : Option Char := none

def AuthorityScan.step (s : AuthorityScan) (c : Char) : Option AuthorityScan :=
  let s := { s with last := some c }
  if isAuthorityChar c = false then none
  else if c = ':' then if 8 ≤ s.colons then none else some { s with colons := s.colons + 1 }
  else if c = '[' then if s.percent || s.opened then none else some { s with opened := true }
  else if c = ']' then
    if !s.opened || s.closed then none else some { s with closed := true, colons := 0, percent := false }
  else if c = '@' then some { s with colons := 0, percent := false }
  else if c = '%' then some { s with percent := true }
  else some s

/-- A host with an optional user in front and an optional port behind. -/
def isAuthority (cs : List Char) : Bool :=
  match cs.foldlM AuthorityScan.step {} with
  | some s => s.opened == s.closed && s.colons ≤ 1 && s.last != some '@' && !s.percent
  | none => false

def authorityLength (cs : List Char) : Nat :=
  (cs.takeWhile fun c => c != '/' && c != '?' && c != '#').length

/-- The path of a target. -/
def pathOfTarget? (cs : List Char) : Option (List Char) :=
  if cs = [] ∨ maxTargetBytes < (String.ofList cs).utf8ByteSize then none
  else if cs = ['/'] ∨ cs = ['*'] then some cs
  else if cs.head? = some '/' then pathAndQuery? cs
  else
    match scheme cs with
    | .tooLong => none
    | .absent => if authorityLength cs = cs.length ∧ isAuthority cs then some [] else none
    | .present rest =>
      let authority := rest.take (authorityLength rest)
      if authority = [] ∨ isAuthority authority = false then none
      else (pathAndQuery? (rest.drop authority.length)).map fun path =>
        if path = [] then ['/'] else path

end Gatehouse.Http
