import Assay.Document.Node
import Assay.Number.Literal
import Assay.Text.Cut
import Assay.Yaml.Token

/-!
# YAML scalars as documents

Which readings a YAML scalar admits. A plain scalar is null, a truth value or a number if it looks
like one, and a text otherwise. Whoever asks for a text gets what is written, whatever it looks like.
A tag of the core schema settles the kind; any other tag makes the scalar a text, and a local one
leaves it unreadable for those who take any kind.
-/

namespace Assay.Yaml

open Document (Atom Scalar)

/-- The tags of the core schema. -/
def coreTag (name : String) : String :=
  "tag:yaml.org,2002:" ++ name

/-- A tag without global meaning. -/
def isLocalTag (tag : Option String) : Bool :=
  match tag with
  | some t => t.toList.head? = some '!'
  | none => false

/-- The words for null. -/
def isNull (s : String) : Bool :=
  s = "null" || s = "Null" || s = "NULL" || s = "~"

/-- The words for truth values. -/
def bool? (s : String) : Option Bool :=
  if s = "true" || s = "True" || s = "TRUE" then some true
  else if s = "false" || s = "False" || s = "FALSE" then some false
  else none

/-- Whether a sign stands in front. -/
def isSigned (cs : List Char) : Bool :=
  cs.head? = some '+' || cs.head? = some '-'

/-- Several digits, perhaps with a sign, of which the first is zero. They are not a number. -/
def isZeroPadded (cs : List Char) : Bool :=
  match if isSigned cs then cs.tail else cs with
  | '0' :: d :: ds => d.isDigit && ds.all Char.isDigit
  | _ => false

/-- A whole number of a radix that a mark in front of the digits tells. -/
def radixNatural? (cs : List Char) : Option Nat :=
  match cs with
  | '0' :: 'x' :: ds => Number.natural? 16 ds
  | '0' :: 'o' :: ds => Number.natural? 8 ds
  | '0' :: 'b' :: ds => Number.natural? 2 ds
  | _ => none

/-- A whole number with an optional sign, no further than `above` and `below` from zero. A number of
a radix that is too large is tried as a decimal one, which it is not. -/
def integer? (above below : Nat) (cs : List Char) : Option Int :=
  let (negative, ds) :=
    match cs with
    | '+' :: ds => (false, ds)
    | '-' :: ds => (true, ds)
    | ds => (false, ds)
  let limit := if negative then below else above
  let decimal := if isZeroPadded cs then none else Number.natural? 10 ds
  let n := (radixNatural? ds).or decimal
  (n.filter (· ≤ limit)).map fun n => if negative then -Int.ofNat n else Int.ofNat n

/-- A number that need not be whole. -/
def real? (cs : List Char) : Option Binary64 :=
  let unsigned := if cs.head? = some '+' then cs.tail else cs
  if cs.head? = some '+' && isSigned unsigned then none
  else
    match String.ofList unsigned, String.ofList cs with
    | ".inf", _ | ".Inf", _ | ".INF", _ => some (.infinite false)
    | _, "-.inf" | _, "-.Inf" | _, "-.INF" => some (.infinite true)
    | _, ".nan" | _, ".NaN" | _, ".NAN" => some .nan
    | _, _ =>
      match Number.literal unsigned with
      | .ok (.finite negative units) => some (.finite negative units)
      | _ => none

/-- A whole number of any kind; none inside if it is not one of 64 bits and cannot be read. -/
def anyInteger? (cs : List Char) : Option (Option Atom) :=
  match integer? (Number.words64 - 1) Number.words63 cs with
  | some n => some (some (.whole n))
  | none => (integer? (Nat.pow 2 128 - 1) (Nat.pow 2 127) cs).map fun _ => none

/-- A plain scalar without a tag, as a value of the kind that it looks like. -/
def plainAtom? (s : String) : Option Atom :=
  let cs := s.toList
  if s.isEmpty || isNull s then some .null
  else
    match bool? s, anyInteger? cs with
    | some b, _ => some (.bool b)
    | none, some n => n
    | none, none =>
      match if isZeroPadded cs then none else real? cs with
      | some x => some (.real x)
      | none => some (.text s)

/-- A scalar as a value of any kind. -/
def atom? (tag : Option String) (style : Style) (s : String) : Option Atom :=
  match tag with
  | none => if style = .plain then plainAtom? s else some (.text s)
  | some t =>
    if isLocalTag tag then none
    else if t = coreTag "bool" then (bool? s).map .bool
    else if t = coreTag "int" then (anyInteger? s.toList).join
    else if t = coreTag "float" then (real? s.toList).map .real
    else if t = coreTag "null" then if isNull s then some .null else none
    else some (.text s)

/-- Whether a scalar counts as absent. -/
def absent? (tag : Option String) (style : Style) (s : String) : Option Bool :=
  if style ≠ .plain then some false
  else
    match tag with
    | none => some (s.isEmpty || isNull s)
    | some t => if t ≠ coreTag "null" then some false else if isNull s then some true else none

/-- The readings of a scalar. -/
def scalarOf (tag : Option String) (style : Style) (s : String) : Scalar :=
  let stated (kind : String) : Bool :=
    style = .plain || (style = .literal && tag = some (coreTag kind))
  { text? := some s
    atom? := atom? tag style s
    absent? := absent? tag style s
    bool? := if stated "bool" then bool? s else none
    int? := if stated "int" then integer? (Number.words63 - 1) Number.words63 s.toList else none
    nat? :=
      if stated "int" && s.toList.head? != some '-' then
        (integer? (Number.words64 - 1) 0 s.toList).map Int.toNat
      else none
    isBlank := style = .plain && s.isEmpty }

/-- The scalar of a stream without documents, which stands for an empty record or list. -/
def nothing : Scalar :=
  { atom? := some .null, absent? := some true, isBlank := true }

end Assay.Yaml
