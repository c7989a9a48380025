import Assay.Url.Host

/-!
# Addresses

Addresses of resources, read the lenient way that browsers do: blanks around them and line ends
within them do not count, with the well known schemes a backslash is a slash, and the path is cleared
of names that lead nowhere.
-/

namespace Assay

/-- The address of a resource. -/
structure Url where
  scheme : String
  /-- User name and password, encoded. -/
  user : String := ""
  host : Option Url.Host := none
  /-- The port, unless it is the one that the scheme implies. -/
  port : Option Nat := none
  path : String := ""
  query : Option String := none
  fragment : Option String := none
  deriving DecidableEq, Repr

namespace Url

/-- The port that a scheme implies. -/
def defaultPort? (scheme : String) : Option Nat :=
  if scheme = "http" ∨ scheme = "ws" then some 80
  else if scheme = "https" ∨ scheme = "wss" then some 443
  else if scheme = "ftp" then some 21
  else none

/-- The schemes of addresses that have a host and a hierarchical path. -/
def isSpecial (scheme : String) : Bool :=
  (defaultPort? scheme).isSome || scheme = "file"

/-- Drops blanks at both ends, and tabs and line ends. -/
def cleaned (cs : List Char) : List Char :=
  let blank (c : Char) : Bool := c.toNat ≤ 0x20
  let cs := ((cs.dropWhile blank).reverse.dropWhile blank).reverse
  cs.filter fun c => c ≠ '\t' ∧ c ≠ '\n' ∧ c ≠ '\r'

/-- The scheme, in lower case, and what follows its colon. -/
def scheme? (cs : List Char) : Option (String × List Char) := do
  guard ((cs.head?.map Char.isAlpha).getD false)
  let (name, rest) := cs.span fun c => c.isAlphanum || c = '+' || c = '-' || c = '.'
  match rest with
  | ':' :: rest => some (Text.lowered (String.ofList name), rest)
  | _ => none

/-- A slash, or with special schemes a backslash. -/
def isSlash (special : Bool) (c : Char) : Bool :=
  c = '/' || (special && c = '\\')

/-- A character that ends the part of an address with the host. -/
def endsAuthority (special : Bool) (c : Char) : Bool :=
  isSlash special c || c = '?' || c = '#'

/-! ## Paths -/

/-- A letter followed by a colon or a bar, which names a drive. -/
def isDrive : List Char → Bool
  | [c, d] => c.isAlpha && (d = ':' || d = '|')
  | _ => false

/-- A drive in its usual form. -/
def isPlainDrive : List Char → Bool
  | [c, d] => c.isAlpha && d = ':'
  | _ => false

/-- Whether a name stands for the directory itself. -/
def isDot (cs : List Char) : Bool :=
  let s := Text.lowered (String.ofList cs)
  s = "." || s = "%2e"

/-- Whether a name stands for the directory above. -/
def isDotDot (cs : List Char) : Bool :=
  let s := Text.lowered (String.ofList cs)
  s = ".." || s = "%2e." || s = ".%2e" || s = "%2e%2e"

/-- The path so far, the latest name first, without its latest name. A drive stays. -/
def up (file : Bool) : List (List Char) → List (List Char)
  | [] => []
  | [name] => if file && isPlainDrive name then [name] else []
  | _ :: names => names

/-- Adds the names of a path to those so far, the latest first. A name that leads nowhere leaves an
empty one if it is the last. -/
def addNames (file : Bool) : List (List Char) → List (List Char) → List (List Char)
  | names, [] => names
  | names, name :: rest =>
    let close (names : List (List Char)) := if rest.isEmpty then [] :: names else names
    if isDotDot name then addNames file (close (up file names)) rest
    else if isDot name then addNames file (close names) rest
    else
      let name := encode pathSet name
      let name := if file && names.isEmpty && isDrive name then name.take 1 ++ [':'] else name
      addNames file (name :: names) rest

/-- The names of the text of a path. -/
def pathNames (special file : Bool) (cs : List Char) : List (List Char) :=
  let slash := if special then cs.map fun c => if c = '\\' then '/' else c else cs
  let slash := if slash.head? = some '/' then slash.tail else slash
  (addNames file [] (Text.split '/' slash)).reverse

/-- The text of a path with names. -/
def pathText (names : List (List Char)) : String :=
  String.ofList (names.flatMap ('/' :: ·))

/-! ## The other parts -/

/-- The user name and password in front of an at sign, encoded and with the at sign. -/
def userText (cs : List Char) : String :=
  let (name, word) := (Text.cut (· = ':') cs).getD (cs, [])
  let text := encode userSet name ++ (if word.isEmpty then [] else ':' :: encode userSet word)
  if text.isEmpty then "" else String.ofList text ++ "@"

/-- Cuts a text at its last at sign. -/
def cutUser (cs : List Char) : List Char × List Char :=
  match Text.cut (· = '@') cs.reverse with
  | some (back, front) => (front.reverse, back.reverse)
  | none => ([], cs)

/-- The text of the host at the front: up to a colon outside of brackets. -/
def hostLength : (inBrackets : Bool) → List Char → Nat
  | _, [] => 0
  | inBrackets, c :: cs =>
    if c = ':' && !inBrackets then 0
    else hostLength (if c = '[' then true else if c = ']' then false else inBrackets) cs + 1

/-- The port behind the host, if it is not the one that the scheme implies. -/
def port? (scheme : String) : List Char → Option (Option Nat)
  | [] => some none
  | ':' :: ds => do
    if ds.isEmpty then return none
    let n ← (Number.natural? 10 ds).filter (· < 65536)
    return if defaultPort? scheme = some n then none else some n
  | _ => none

/-- Adds query and fragment, given what follows the path. -/
def withTail (url : Url) (cs : List Char) : Url :=
  let (front, fragment) :=
    match Text.cut (· = '#') cs with
    | some (front, back) => (front, some (String.ofList (encode fragmentSet back)))
    | none => (cs, none)
  let query :=
    match front with
    | '?' :: q => some (String.ofList (encode (querySet (isSpecial url.scheme)) q))
    | _ => none
  { url with query, fragment }

/-- Reads an address from its host on. -/
def authority? (scheme : String) (cs : List Char) : Option Url := do
  let special := isSpecial scheme
  let (front, rest) := cs.span fun c => !endsAuthority special c
  let (user, hostPort) := cutUser front
  let (hostText, portText) := hostPort.splitAt (hostLength false hostPort)
  guard !((special || !portText.isEmpty || !(userText user).isEmpty) && hostText.isEmpty)
  let host ← if special then Host.special? hostText else Host.opaque? hostText
  -- A backslash ends the port with any scheme.
  let (portText, rest) :=
    match Text.cut (· = '\\') portText with
    | some (front, back) => (front, '\\' :: back ++ rest)
    | none => (portText, rest)
  let port ← port? scheme portText
  let (path, rest) := rest.span fun c => c ≠ '?' ∧ c ≠ '#'
  let path := if path.isEmpty && !special then "" else pathText (pathNames special false path)
  let host := if host = .name "" then none else some host
  return withTail { scheme, user := userText user, host, port, path } rest

/-- Reads an address of a file. A host named `localhost` is none, and a drive makes the host void. -/
def file? (cs : List Char) : Option Url := do
  let slash := isSlash true
  let (hostText, rest) :=
    match cs with
    | a :: b :: more =>
      if slash a && slash b then
        let (h, rest) := more.span fun c => !endsAuthority true c
        if isDrive h then ([], more) else (h, rest)
      else ([], cs)
    | _ => ([], cs)
  let host ← if hostText.isEmpty then pure none else (Host.special? hostText).map some
  let (path, rest) := rest.span fun c => c ≠ '?' ∧ c ≠ '#'
  let names := pathNames true true path
  let host := if host = some (.name "localhost") || (names.head?.map isPlainDrive).getD false then
    none else host
  let text := (pathText names).toList.dropWhile (· = '/')
  return withTail { scheme := "file", host, path := String.ofList ('/' :: text) } rest

/-- Reads an address without a host, whose path is kept as it is. -/
def hostless (scheme : String) (cs : List Char) : Url :=
  let (path, rest) := cs.span fun c => c ≠ '?' ∧ c ≠ '#'
  withTail { scheme, path := String.ofList path } rest

/-- Reads an address. -/
def parse? (s : String) : Option Url :=
  match scheme? (cleaned s.toList) with
  | none => none
  | some (scheme, rest) =>
    if scheme = "file" then file? rest
    else if isSpecial scheme then authority? scheme (rest.dropWhile (isSlash true))
    else
      match rest with
      | '/' :: '/' :: rest => authority? scheme rest
      | _ => some (hostless scheme rest)

/-- The text of an address with a host. -/
def text (url : Url) : String :=
  url.scheme ++ "://" ++ url.user ++ ((url.host.map Host.text).getD "") ++
    ((url.port.map fun n => ":" ++ toString n).getD "") ++ url.path ++
    ((url.query.map ("?" ++ ·)).getD "") ++ ((url.fragment.map ("#" ++ ·)).getD "")

/-- The path of the file that an address without a host stands for. A drive at the end gets a
slash. -/
def filePath? (url : Url) : Option String := do
  guard url.host.isNone
  let octets := decode url.path.toList
  let drive :=
    match octets.reverse with
    | d :: c :: _ :: _ => (d = 0x3A || d = 0x7C) && (Char.ofNat c).isAlpha
    | _ => false
  return String.ofList (Text.ofUtf8Lossy (if drive then octets ++ [0x2F] else octets))

end Url

end Assay
