import Assay.Environment
import Assay.Text.Utf8
import Assay.Trigger.Settings

/-!
# Requests

The request that a trigger makes again and again. Its method and the names of its headers are
tokens, and a header's value holds no control characters other than tabs. Of two headers whose names
differ only in case the later one gives the value and the earlier one the place.
-/

namespace Assay.Trigger

/-- A request to an endpoint. -/
structure Request where
  url : String
  method : String
  body : String
  /-- The headers by lower-cased name, in the order in which the names first came. -/
  headers : List (String × String)
  deriving DecidableEq, Repr, Inhabited

/-- A character of a token. -/
def isTokenChar (c : Char) : Bool :=
  c.isAlphanum || "!#$%&'*+-.^_\x60|~".toList.contains c

/-- A text that is one token. -/
def isToken (s : String) : Bool :=
  !s.isEmpty && s.toList.all isTokenChar

/-- A text that a header may have as its value. -/
def isHeaderValue (s : String) : Bool :=
  s.toList.all fun c => c = '\t' || (0x20 ≤ c.toNat && c.toNat ≠ 0x7F)

/-- The method that is written, in upper case; none is the one that only asks. -/
def methodOf (s : String) : Except Error String :=
  let method := if s.isEmpty then "GET" else String.ofList (s.toList.map Char.toUpper)
  if isToken method then .ok method else .error (.badMethod method)

/-- Headers with a further one, which takes the place of an earlier one of its name. -/
def putHeader (headers : List (String × String)) (name value : String) : List (String × String) :=
  if headers.any (·.1 == name) then
    headers.map fun h => if h.1 = name then (name, value) else h
  else headers ++ [(name, value)]

/-- Headers with a further one as it is written. -/
def addHeader (headers : List (String × String)) (header : String × String) :
    Except Error (List (String × String)) :=
  let name := Text.lowered header.1
  if !isToken header.1 then .error (.badHeaderName header.1)
  else if !isHeaderValue header.2 then .error (.badHeaderValue name)
  else .ok (putHeader headers name header.2)

/-- The headers that are written, in the order of their keys. -/
def headersOf (headers : Dictionary String) : Except Error (List (String × String)) :=
  headers.entries.foldlM addHeader []

/-- The value of a header in quotes, with what is not visible as octets. -/
def quotedValue (s : String) : String :=
  let octet (n : Nat) : List Char :=
    if n = 0x22 then ['\\', '"']
    else if n = 9 ∨ 0x20 ≤ n ∧ n < 0x7F then [.ofNat n]
    else '\\' :: 'x' :: Nat.toDigits 16 n
  "\"" ++ String.ofList ((Text.utf8 s.toList).flatMap octet) ++ "\""

/-- All headers on one line. -/
def Request.headerLine (r : Request) : String :=
  "\x7b" ++ ", ".intercalate (r.headers.map fun h => "\"" ++ h.1 ++ "\": " ++ quotedValue h.2) ++
    "\x7d"

/-- The request that is written, with the environment's part in its address. -/
def Request.make (env : Environment) (url method body : String) (headers : Dictionary String) :
    Except Error Request := do
  let method ← methodOf method
  let headers ← headersOf headers
  return { url := env.expandText url, method, body, headers }

end Assay.Trigger
