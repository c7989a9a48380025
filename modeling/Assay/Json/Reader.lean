import Assay.Json.Number
import Assay.Json.Scalar

/-!
# Reading JSON text

The reader follows the grammar strictly: no comments, no trailing commas, no leading zeros or byte
order mark, and only the four plain blanks. Damage ends the tree. Lists and objects more than 127
levels deep are marked, and can be passed over but not read.
-/

namespace Assay.Json

open Document (Atom Scalar Node Form Source)

/-- What is left of a text, none once damage has been met. -/
abbrev Rest := Option (List Char)

/-- The blanks of the grammar. -/
def isSpace (c : Char) : Bool :=
  c = ' ' || c = '\n' || c = '\t' || c = '\r'

/-- Drops blanks. -/
def skipSpace (cs : List Char) : List Char :=
  cs.dropWhile isSpace

/-- The value of four hexadecimal digits. -/
def fourHex? (a b c d : Char) : Option Nat := do
  let digits ← [a, b, c, d].mapM Number.digitValue?
  return digits.foldl (fun n x => 16 * n + x) 0

/-- The character that a letter stands for behind a backslash. -/
def escapeOf? : Char → Option Char
  | '"' => some '"'
  | '\\' => some '\\'
  | '/' => some '/'
  | 'b' => some '\x08'
  | 'f' => some '\x0c'
  | 'n' => some '\n'
  | 'r' => some '\r'
  | 't' => some '\t'
  | _ => none

/-- Whether a code is the first half of a surrogate pair. -/
def isHighHalf (n : Nat) : Bool :=
  0xD800 ≤ n && n ≤ 0xDBFF

/-- Whether a code is the second half of a surrogate pair. -/
def isLowHalf (n : Nat) : Bool :=
  0xDC00 ≤ n && n ≤ 0xDFFF

/-- The character that the two halves of a surrogate pair stand for. -/
def paired (high low : Nat) : Char :=
  Char.ofNat (0x10000 + (high - 0xD800) * 0x400 + (low - 0xDC00))

/-- Puts codes, given from the last one to the first, in front of characters. A half without the
other one stands for no character. -/
def joinCodes : List Nat → List Char → Option (List Char)
  | [], after => some after
  | [n], after => if isHighHalf n || isLowHalf n then none else some (Char.ofNat n :: after)
  | n :: m :: codes, after =>
    if isLowHalf n then if isHighHalf m then joinCodes codes (paired m n :: after) else none
    else if isHighHalf n then none
    else joinCodes (m :: codes) (Char.ofNat n :: after)

/-- Reads the codes behind an opening quote up to the closing one, and puts them in front of those
already read, the last one first. -/
def codesRest (codes : List Nat) : List Char → Option (List Nat × List Char)
  | [] => none
  | '"' :: rest => some (codes, rest)
  | '\\' :: 'u' :: a :: b :: c :: d :: rest => do codesRest ((← fourHex? a b c d) :: codes) rest
  | '\\' :: c :: rest => do codesRest ((← escapeOf? c).toNat :: codes) rest
  | '\\' :: [] => none
  | c :: rest => if c.toNat < 0x20 then none else codesRest (c.toNat :: codes) rest

/-- Reads a text behind its opening quote. Half of a surrogate pair leaves the text without a value;
anything else that is wrong is damage. -/
def textRest (cs : List Char) : Option (Option String × List Char) :=
  (codesRest [] cs).map fun (codes, rest) => ((joinCodes codes []).map String.ofList, rest)

/-- The digits at the front. -/
def digitsOf (cs : List Char) : List Nat × List Char :=
  let (ds, rest) := cs.span Char.isDigit
  (ds.map fun c => c.toNat - 48, rest)

/-- Whether there is a minus at the front, and what follows it. -/
def signOf : List Char → Bool × List Char
  | '-' :: rest => (true, rest)
  | cs => (false, cs)

/-- Reads an optional fraction with at least one digit. -/
def fraction? : List Char → Option (List Nat × List Char)
  | '.' :: rest =>
    let (ds, rest) := digitsOf rest
    if ds.isEmpty then none else some (ds, rest)
  | cs => some ([], cs)

/-- Reads an optional exponent with at least one digit. -/
def exponent? : List Char → Option (Option Int × List Char)
  | [] => some (none, [])
  | c :: rest =>
    if c = 'e' ∨ c = 'E' then
      let (negative, rest) :=
        match rest with
        | '+' :: rest => (false, rest)
        | _ => signOf rest
      let (ds, rest) := digitsOf rest
      if ds.isEmpty then none
      else
        let n : Int := Number.ofDecimalDigits ds
        some (some (if negative then -n else n), rest)
    else some (none, c :: rest)

/-- Reads a number: digits without a leading zero, then an optional fraction and an optional
exponent. -/
def numberText? (cs : List Char) : Option (NumberText × List Char) := do
  let (negative, cs) := signOf cs
  let (leading, rest) := digitsOf cs
  guard (!leading.isEmpty && (leading.head? != some 0 || leading.length = 1))
  let (fraction, rest) ← fraction? rest
  let (exponent, rest) ← exponent? rest
  return ({ negative, whole := leading, fraction, exponent }, rest)

/-- The readings of a number. One without a value cannot be read. -/
def numberScalar (t : NumberText) : Scalar :=
  match t.value? with
  | some (.whole n) => scalarOf (.whole n)
  | some (.real x) => scalarOf (.real x)
  | _ => unreadable

/-- Reads a word such as `true`, or else a number. -/
def plain? (cs : List Char) : Option (Scalar × List Char) :=
  match cs with
  | 'n' :: 'u' :: 'l' :: 'l' :: rest => some (scalarOf .null, rest)
  | 't' :: 'r' :: 'u' :: 'e' :: rest => some (scalarOf (.bool true), rest)
  | 'f' :: 'a' :: 'l' :: 's' :: 'e' :: rest => some (scalarOf (.bool false), rest)
  | _ => do
    let (t, rest) ← numberText? cs
    return (numberScalar t, rest)

/-- A text behind its opening quote, as a node. -/
def textNode (cs : List Char) : Node × Rest :=
  match textRest cs with
  | some (some s, rest) => (.scalar (scalarOf (.text s)), some rest)
  | some (none, rest) => (.scalar unreadable, some rest)
  | none => (.broken, none)

/-- How many levels of lists and objects can be read. -/
def depthLimit : Nat := 127

mutual

/-- Reads a value at a depth. -/
def value : (rounds : Nat) → (depth : Nat) → List Char → Node × Rest
  | 0, _, _ => (.broken, none)
  | rounds + 1, depth, cs =>
    let deep := depthLimit ≤ depth
    match skipSpace cs with
    | '"' :: rest => textNode rest
    | '[' :: rest =>
      let (items, rest) :=
        match skipSpace rest with
        | ']' :: rest => ([], some rest)
        | rest => listRest rounds (depth + 1) rest
      (.list items { positional := true, sealed := deep }, rest)
    | '\x7b' :: rest =>
      let (entries, rest) :=
        match skipSpace rest with
        | '\x7d' :: rest => ([], some rest)
        | rest => objectRest rounds (depth + 1) rest
      (.table entries { sealed := deep }, rest)
    | rest =>
      match plain? rest with
      | some (s, rest) => (.scalar s, some rest)
      | none => (.broken, none)

/-- Reads one item of a list and those behind it. -/
def listRest : (rounds : Nat) → (depth : Nat) → List Char → List Node × Rest
  | 0, _, _ => ([.broken], none)
  | rounds + 1, depth, cs =>
    match value rounds depth cs with
    | (item, none) => ([item], none)
    | (item, some rest) =>
      match skipSpace rest with
      | ']' :: rest => ([item], some rest)
      | ',' :: rest =>
        let (items, rest) := listRest rounds depth rest
        (item :: items, rest)
      | _ => ([item, .broken], none)

/-- Reads one field of an object and those behind it. -/
def objectRest : (rounds : Nat) → (depth : Nat) → List Char → List (Node × Node) × Rest
  | 0, _, _ => ([(.broken, .broken)], none)
  | rounds + 1, depth, cs =>
    match skipSpace cs with
    | '"' :: rest =>
      match textNode rest with
      | (key, none) => ([(key, .broken)], none)
      | (key, some rest) =>
        match skipSpace rest with
        | ':' :: rest =>
          match value rounds depth rest with
          | (item, none) => ([(key, item)], none)
          | (item, some rest) =>
            match skipSpace rest with
            | '\x7d' :: rest => ([(key, item)], some rest)
            | ',' :: rest =>
              let (entries, rest) := objectRest rounds depth rest
              ((key, item) :: entries, rest)
            | _ => ([(key, item), (.broken, .broken)], none)
        | _ => ([(key, .broken)], none)
    | _ => ([(.broken, .broken)], none)

end

/-- Reads a whole text. -/
def source (cs : List Char) : Source :=
  match value (2 * cs.length + 2) 0 cs with
  | (root, none) => ⟨root, false⟩
  | (root, some rest) => ⟨root, (skipSpace rest).isEmpty⟩

/-- The value that a text holds. -/
def ofText (s : String) : Except Document.Error Json :=
  (source s.toList).read Node.json

end Assay.Json
