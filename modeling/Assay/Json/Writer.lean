import Assay.Json.Basic
import Assay.Number.Shortest

/-!
# Writing JSON text

The compact form: no blanks, fields in the order of the object, and in texts only the quote, the
backslash and control characters escaped.
-/

namespace Assay.Json

/-- A digit in hexadecimal. -/
def hexDigit (n : Nat) : Char :=
  Nat.digitChar n

/-- A character inside a quoted text. -/
def escaped (c : Char) : List Char :=
  match c with
  | '"' => ['\\', '"']
  | '\\' => ['\\', '\\']
  | '\n' => ['\\', 'n']
  | '\r' => ['\\', 'r']
  | '\t' => ['\\', 't']
  | '\x08' => ['\\', 'b']
  | '\x0c' => ['\\', 'f']
  | _ =>
    if c.toNat < 0x20 then ['\\', 'u', '0', '0', hexDigit (c.toNat / 16), hexDigit (c.toNat % 16)]
    else [c]

/-- A text in quotes. -/
def quoted (s : String) : String :=
  "\"" ++ String.ofList (s.toList.flatMap escaped) ++ "\""

/-- A binary64 number; a whole one keeps a fraction of zero, which tells it from whole numbers. -/
def realText (x : Binary64) : String :=
  let s := x.text
  if s.contains '.' then s else s ++ ".0"

mutual

/-- The compact text of a value. -/
def compact : Json → String
  | .null => "null"
  | .bool b => if b then "true" else "false"
  | .whole n => toString n
  | .real x =>
    match x with
    | .finite _ _ => realText x
    | _ => "null"
  | .text s => quoted s
  | .list items => "[" ++ ",".intercalate (compactItems items) ++ "]"
  | .object fields => "\x7b" ++ ",".intercalate (compactFields fields) ++ "\x7d"

/-- The texts of the items of a list. -/
def compactItems : List Json → List String
  | [] => []
  | j :: js => j.compact :: compactItems js

/-- The texts of the fields of an object. -/
def compactFields : List (String × Json) → List String
  | [] => []
  | (k, j) :: fs => (quoted k ++ ":" ++ j.compact) :: compactFields fs

end

end Assay.Json
