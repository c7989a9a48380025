import Assay.Number.Binary64
import Assay.Number.Whole

/-!
# Number literals

A literal is an optional sign followed by `inf`, `infinity` or `nan` in any case, or by digits
with an optional point (at least one digit in all) and an optional exponent. Nothing may stand
before or behind it. Its value is the binary64 number nearest to what is written.
-/

namespace Assay.Number

/-- Why a text is not a number literal. -/
inductive LiteralError where
  | empty
  | malformed
  deriving DecidableEq, Repr

/-- The wording of the error. -/
def LiteralError.message : LiteralError → String
  | .empty => "cannot parse float from empty string"
  | .malformed => "invalid float literal"

/-- The exponent part of a literal: nothing, or `e`, an optional sign and digits. -/
def exponent? : List Char → Option Int
  | [] => some 0
  | c :: cs =>
    if c = 'e' ∨ c = 'E' then
      match cs with
      | '+' :: ds => (natural? 10 ds).map Int.ofNat
      | '-' :: ds => (natural? 10 ds).map fun n => -Int.ofNat n
      | ds => (natural? 10 ds).map Int.ofNat
    else none

/-- The digits behind the point, if there is a point, and what follows them. -/
def fraction (cs : List Char) : List Char × List Char :=
  match cs with
  | '.' :: ds => ds.span Char.isDigit
  | _ => ([], cs)

/-- The value of digits with an optional point and an optional exponent. -/
def decimal? (negative : Bool) (cs : List Char) : Option Binary64 :=
  let (whole, rest) := cs.span Char.isDigit
  let (part, rest) := fraction rest
  if whole.isEmpty && part.isEmpty then none
  else do
    let mantissa ← natural? 10 (whole ++ part)
    let exponent ← exponent? rest
    return .ofDecimal negative mantissa (exponent - part.length)

/-- The value of a literal behind its sign. -/
def magnitude? (negative : Bool) (cs : List Char) : Option Binary64 :=
  let word := String.ofList (cs.map Char.toLower)
  if word = "inf" ∨ word = "infinity" then some (.infinite negative)
  else if word = "nan" then some .nan
  else decimal? negative cs

/-- The value of a literal. -/
def literal (cs : List Char) : Except LiteralError Binary64 :=
  let value :=
    match cs with
    | '-' :: ds => magnitude? true ds
    | '+' :: ds => magnitude? false ds
    | ds => magnitude? false ds
  if cs.isEmpty then .error .empty
  else
    match value with
    | some x => .ok x
    | none => .error .malformed

end Assay.Number
