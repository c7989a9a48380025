import Assay.Text.Cut
import Assay.Unicode.Property
import Assay.Unicode.Fold
import Assay.Url.Percent

/-!
# Hosts

The host of an address is a domain, an address of version 4 or 6 of the internet protocol, or, with a
scheme that is not one of the well known ones, some text without further meaning. A domain whose last
label is a number has to be an address of version 4.
-/

namespace Assay.Url

/-- A host. -/
inductive Host where
  | name (s : String)
  | ipv4 (address : Nat)
  | ipv6 (pieces : List Nat)
  deriving DecidableEq, Repr

/-! ## Version 4 -/

/-- A part of an address of version 4: decimal, octal or hexadecimal. The outer option is none if it
is not a number, the inner one if the number is too large. -/
def ipv4Number? (cs : List Char) : Option (Option Nat) :=
  let value (radix : Nat) (ds : List Char) : Option (Option Nat) :=
    if ds.isEmpty then some (some 0)
    else (Number.natural? radix ds).map fun n => if n < Number.words32 then some n else none
  match cs with
  | [] => none
  | '0' :: 'x' :: ds | '0' :: 'X' :: ds => value 16 ds
  | '0' :: d :: ds => value 8 (d :: ds)
  | ds => value 10 ds

/-- Whether the last label of a domain is a number. -/
def endsInNumber (cs : List Char) : Bool :=
  match (Text.split '.' cs).reverse with
  | [] :: last :: _ => isNumber last
  | [] :: _ => false
  | last :: _ => isNumber last
  | [] => false
where
  /-- Digits, or a number with a radix. -/
  isNumber (label : List Char) : Bool :=
    (!label.isEmpty && label.all Char.isDigit) || (ipv4Number? label).isSome

/-- Reads an address of version 4. The last part fills what the others leave. -/
def ipv4? (cs : List Char) : Option Nat := do
  let parts := Text.split '.' cs
  let parts := if parts.getLast? = some [] then parts.dropLast else parts
  guard (parts.length ≤ 4)
  let numbers ← parts.mapM fun part => (ipv4Number? part).join
  let last ← numbers.getLast?
  let front := numbers.dropLast
  guard (front.all (· ≤ 255) && last < Nat.pow 256 (4 - front.length))
  return front.zipIdx.foldl (fun address (n, i) => address + n * Nat.pow 256 (3 - i)) last

/-- The text of an address of version 4. -/
def ipv4Text (address : Nat) : String :=
  ".".intercalate ([3, 2, 1, 0].map fun i => toString (address / Nat.pow 256 i % 256))

/-! ## Version 6 -/

/-- The two pieces of an address of version 4 within one of version 6: four numbers without leading
zeros. -/
def embeddedIpv4? (cs : List Char) : Option (List Nat) := do
  let numbers ← (Text.split '.' cs).mapM fun part => do
    guard (part.length = 1 ∨ part.head? ≠ some '0')
    (Number.natural? 10 part).filter (· ≤ 255)
  match numbers with
  | [a, b, c, d] => some [a * 256 + b, c * 256 + d]
  | _ => none

/-- The pieces between colons; the last may be an address of version 4. -/
def ipv6Pieces? (cs : List Char) : Option (List Nat) :=
  if cs.isEmpty then some []
  else
    let parts := Text.split ':' cs
    parts.zipIdx.foldlM (fun pieces (part, i) =>
      if part.contains '.' && i + 1 = parts.length then
        (embeddedIpv4? part).map (pieces ++ ·)
      else if 4 < part.length then none
      else (Number.natural? 16 part).map fun n => pieces ++ [n]) []

/-- Cuts a text at its first pair of colons. -/
def cutColons : List Char → Option (List Char × List Char)
  | ':' :: ':' :: cs => some ([], cs)
  | c :: cs => (cutColons cs).map fun (front, back) => (c :: front, back)
  | [] => none

/-- Reads an address of version 6. A pair of colons stands for at least one piece of zero. -/
def ipv6? (cs : List Char) : Option (List Nat) :=
  match cutColons cs with
  | none => (ipv6Pieces? cs).filter (·.length = 8)
  | some (front, back) => do
    guard !(front.contains '.')
    let front ← ipv6Pieces? front
    let back ← ipv6Pieces? back
    guard (front.length + back.length ≤ 7)
    return front ++ List.replicate (8 - front.length - back.length) 0 ++ back

/-- The first longest run of at least two pieces of zero, as its start and length. -/
def longestZeros (pieces : List Nat) : Option (Nat × Nat) :=
  let runs := (List.range pieces.length).map fun i =>
    (i, ((pieces.drop i).takeWhile (· = 0)).length)
  runs.foldl (fun best run =>
    match best with
    | none => if 2 ≤ run.2 then some run else none
    | some b => if b.2 < run.2 then some run else some b) none

/-- The text of pieces. -/
def piecesText (pieces : List Nat) : String :=
  ":".intercalate (pieces.map fun n => String.ofList (Nat.toDigits 16 n))

/-- The text of an address of version 6. -/
def ipv6Text (pieces : List Nat) : String :=
  match longestZeros pieces with
  | none => piecesText pieces
  | some (start, length) =>
    piecesText (pieces.take start) ++ "::" ++ piecesText (pieces.drop (start + length))

/-! ## Domains -/

/-- The bias of the next digit, given the last difference. -/
def adaptBias (delta count : Nat) (first : Bool) : Nat :=
  let delta := if first then delta / 700 else delta / 2
  let delta := delta + delta / count
  let steps := ((List.range 10).find? fun k => delta / Nat.pow 35 k ≤ 455).getD 0
  36 * steps + 36 * (delta / Nat.pow 35 steps) / (delta / Nat.pow 35 steps + 38)

/-- A difference as digits of varying radix. -/
def deltaDigits (bias : Nat) : (rounds : Nat) → (place q : Nat) → List Char
  | 0, _, _ => []
  | rounds + 1, place, q =>
    let t := if place ≤ bias then 1 else if bias + 26 ≤ place then 26 else place - bias
    let digit (d : Nat) : Char := if d < 26 then .ofNat (97 + d) else .ofNat (22 + d)
    if q < t then [digit q]
    else digit (t + (q - t) % (36 - t)) :: deltaDigits bias rounds (place + 36) ((q - t) / (36 - t))

/-- A label that is being encoded. -/
structure LabelEncoder where
  digits : List Char := []
  delta : Nat := 0
  bias : Nat := 72
  /-- How many characters have been encoded, with those that are ASCII. -/
  handled : Nat

/-- Encodes the places at which a code point stands, where those below it have been encoded. -/
def LabelEncoder.encodeCode (ascii : Nat) (codes : List Nat) (code : Nat) (e : LabelEncoder) :
    LabelEncoder :=
  codes.foldl (fun e c =>
    if c < code then { e with delta := e.delta + 1 }
    else if c = code then
      { digits := e.digits ++ deltaDigits e.bias 40 36 e.delta
        delta := 0
        bias := adaptBias e.delta (e.handled + 1) (e.handled = ascii)
        handled := e.handled + 1 }
    else e) e

/-- A label that is not ASCII: its ASCII characters, then digits for the places of the others, in
ascending order of these. -/
def encodeLabel (cs : List Char) : List Char :=
  let codes := cs.map Char.toNat
  let ascii := cs.filter fun c => c.toNat < 128
  let others := (codes.filter (128 ≤ ·)).mergeSort.eraseDups
  let (e, _) := others.foldl (fun (e, next) code =>
    let e : LabelEncoder := { e with delta := e.delta + (code - next) * (e.handled + 1) }
    let e := e.encodeCode ascii.length codes code
    ({ e with delta := e.delta + 1 }, code + 1)) (({ handled := ascii.length } : LabelEncoder), 128)
  "xn--".toList ++ ascii ++ (if ascii.isEmpty then [] else ['-']) ++ e.digits

/-- A character of a domain in lower case. -/
def lowerChar (c : Char) : Char :=
  if c.toNat < 128 then c.toLower
  else
    let small := (Unicode.category? "ll").getD .empty
    if !((Unicode.category? "lu").getD .empty).contains c.toNat then c
    else
      match Unicode.caseGroups.find? (·.contains c.toNat) with
      | some group => ((group.find? small.contains).map Char.ofNat).getD c
      | none => c

/-- A character that may not stand in a domain. -/
def isForbidden (c : Char) : Bool :=
  c.toNat ≤ 0x20 || c.toNat = 0x7F || "%#/:<>?@[\\]^|".toList.contains c

/-- A domain in the form that it is looked up in: lower case and ASCII. -/
def domain? (cs : List Char) : Option (List Char) := do
  let cs ← Text.ofUtf8? (decode cs)
  let cs := if cs.all (·.toNat < 128) then cs.map Char.toLower else
    (cs.filter (· ≠ '\u00ad')).map fun c =>
      if "\u3002\uff0e\uff61".toList.contains c then '.' else lowerChar c
  guard !(cs.any isForbidden)
  let labels := (Text.split '.' cs).map fun label =>
    if label.all (·.toNat < 128) then label else encodeLabel label
  return ['.'].intercalate labels

/-- Reads an address in brackets. -/
def bracketed? (cs : List Char) : Option Host := do
  guard (cs.head? = some '[' ∧ cs.getLast? = some ']')
  (ipv6? (cs.drop 1).dropLast).map .ipv6

/-- Reads the host of an address with a well known scheme. -/
def Host.special? (cs : List Char) : Option Host :=
  if cs.head? = some '[' then bracketed? cs
  else do
    let domain ← domain? cs
    guard !domain.isEmpty
    if endsInNumber domain then (ipv4? domain).map .ipv4
    else return .name (String.ofList domain)

/-- Reads the host of an address with any other scheme. -/
def Host.opaque? (cs : List Char) : Option Host := do
  if cs.head? = some '[' then bracketed? cs
  else
    guard !(cs.any fun c => "\x00\t\n\r #/:<>?@[\\]^|".toList.contains c)
    return .name (String.ofList (encode "" cs))

/-- The text of a host. -/
def Host.text : Host → String
  | .name s => s
  | .ipv4 address => ipv4Text address
  | .ipv6 pieces => "[" ++ ipv6Text pieces ++ "]"

end Assay.Url
