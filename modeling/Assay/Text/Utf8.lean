/-!
# UTF-8

Text as octets and back. Octets that are not well formed are read leniently: each stretch that
starts like a character and breaks off counts as one unreadable character.
-/

namespace Assay.Text

/-- The octets of a text. -/
def utf8 (cs : List Char) : List Nat :=
  cs.flatMap fun c => (String.utf8EncodeChar c).map UInt8.toNat

/-- What the first octet of a character settles: how many octets follow, the range of the next one,
and the bits that it contributes. -/
def utf8Lead? (n : Nat) : Option (Nat × Nat × Nat × Nat) :=
  if n < 0x80 then some (0, 0, 0, n)
  else if n < 0xC2 then none
  else if n < 0xE0 then some (1, 0x80, 0xBF, n - 0xC0)
  else if n < 0xF0 then
    some (2, if n = 0xE0 then 0xA0 else 0x80, if n = 0xED then 0x9F else 0xBF, n - 0xE0)
  else if n < 0xF5 then
    some (3, if n = 0xF0 then 0x90 else 0x80, if n = 0xF4 then 0x8F else 0xBF, n - 0xF0)
  else none

/-- Reads up to `count` further octets of a character, the next one in the range from `low` to
`high`: the code point, unless they break off, and how many there were. -/
def utf8Rest : (count low high code : Nat) → List Nat → Option Nat × Nat
  | 0, _, _, code, _ => (some code, 0)
  | _ + 1, _, _, _, [] => (none, 0)
  | count + 1, low, high, code, n :: ns =>
    if low ≤ n ∧ n ≤ high then
      let (c, used) := utf8Rest count 0x80 0xBF (code * 0x40 + (n - 0x80)) ns
      (c, used + 1)
    else (none, 0)

/-- The characters that octets stand for, none for an unreadable one. -/
def ofUtf8 : (rounds : Nat) → List Nat → List (Option Char)
  | 0, _ => []
  | _, [] => []
  | rounds + 1, n :: ns =>
    match utf8Lead? n with
    | none => none :: ofUtf8 rounds ns
    | some (count, low, high, code) =>
      let (c, used) := utf8Rest count low high code ns
      c.map Char.ofNat :: ofUtf8 rounds (ns.drop used)

/-- The text that octets stand for. -/
def ofUtf8? (ns : List Nat) : Option (List Char) :=
  (ofUtf8 ns.length ns).mapM id

/-- The text that octets stand for, with a replacement for what is unreadable. -/
def ofUtf8Lossy (ns : List Nat) : List Char :=
  (ofUtf8 ns.length ns).map fun c => c.getD '\uFFFD'

end Assay.Text
