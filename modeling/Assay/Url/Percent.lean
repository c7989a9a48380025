import Assay.Number.Whole
import Assay.Text.Utf8

/-!
# Percent encoding

Octets that may not stand for themselves in a part of an address are written as a percent sign and
two hexadecimal digits. Which ones these are differs between the parts.
-/

namespace Assay.Url

/-- A hexadecimal digit. -/
def hexDigit (n : Nat) : Char :=
  if n < 10 then .ofNat (48 + n) else .ofNat (55 + n)

/-- An octet in percent encoding. -/
def percentOctet (n : Nat) : List Char :=
  ['%', hexDigit (n / 16), hexDigit (n % 16)]

/-- A character that stands for itself unless a part of an address says otherwise. -/
def isPlain (c : Char) : Bool :=
  0x20 ≤ c.toNat && c.toNat < 0x7F

/-- Encodes the characters that are not plain and those of a given set. -/
def encode (escaped : String) (cs : List Char) : List Char :=
  cs.flatMap fun c =>
    if isPlain c && !escaped.contains c then [c] else (Text.utf8 [c]).flatMap percentOctet

/-- The octets that a text stands for. A percent sign without two digits stands for itself. -/
def decode : List Char → List Nat
  | [] => []
  | '%' :: a :: b :: cs =>
    match Number.digitValue? a, Number.digitValue? b with
    | some x, some y => (16 * x + y) :: decode cs
    | _, _ => 0x25 :: decode (a :: b :: cs)
  | c :: cs => Text.utf8 [c] ++ decode cs
termination_by cs => cs.length

/-- Characters that are encoded in a fragment. -/
def fragmentSet : String := " \"<>\x60"

/-- Characters that are encoded in a query. -/
def querySet (special : Bool) : String :=
  if special then " \"#<>'" else " \"#<>"

/-- Characters that are encoded in a path. -/
def pathSet : String := fragmentSet ++ "#?\x7b\x7d"

/-- Characters that are encoded in a user name or a password. -/
def userSet : String := pathSet ++ "/:;=@[\\]^|"

end Assay.Url
