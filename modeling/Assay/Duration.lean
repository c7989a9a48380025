import Assay.Number.Literal
import Assay.Text.Blank

/-!
# Durations

A duration is written as terms such as `1h2m3.5s`, each a number and a unit, with an optional sign
in front of all of them. A lone `0` needs no unit. The terms are added up as binary64 numbers of
nanoseconds, and the sum is rounded to whole nanoseconds at the end.
-/

namespace Assay

/-- A duration with a sign of its own, so that `-0` differs from `0`. -/
structure Duration where
  negative : Bool
  /-- The magnitude in nanoseconds. -/
  nanos : Nat
  deriving DecidableEq, Repr, Inhabited

namespace Duration

/-- Why a text is not a duration. -/
inductive Error where
  | empty
  /-- What follows starts with no number. -/
  | numberExpected (rest : String)
  | badNumber (number : String)
  | missingUnit (number : String)
  | unknownUnit (name : String)
  /-- It is too long to be counted in nanoseconds. -/
  | outOfRange
  deriving DecidableEq, Repr

/-- The wording of an error. -/
def Error.message : Error → String
  | .empty => "empty duration"
  | .numberExpected rest => "expected a number at '" ++ rest ++ "'"
  | .badNumber number => "invalid number '" ++ number ++ "'"
  | .missingUnit number => "missing unit after '" ++ number ++ "'"
  | .unknownUnit name => "unknown unit '" ++ name ++ "'"
  | .outOfRange => "duration out of range"

/-- The nanoseconds in a unit. The micro sign and the Greek letter mu are both in use. -/
def unitNanos? : List Char → Option Nat
  | ['n', 's'] => some 1
  | ['u', 's'] => some 1000
  | ['\u00b5', 's'] => some 1000
  | ['\u03bc', 's'] => some 1000
  | ['m', 's'] => some 1000000
  | ['s'] => some 1000000000
  | ['m'] => some 60000000000
  | ['h'] => some 3600000000000
  | _ => none

/-- The least number of nanoseconds that is too large. -/
def limit : Nat := Number.words64

/-- A character of a number. -/
def isNumeral (c : Char) : Bool :=
  c.isDigit || c = '.'

/-- The value of a term, a number and the unit behind it. -/
def term (number unit : List Char) : Except Error Binary64 :=
  match Number.literal number with
  | .error _ => .error (.badNumber (String.ofList number))
  | .ok value =>
    match unitNanos? unit with
    | some nanos => .ok (value.mul (.ofNat false nanos))
    | none =>
      if unit.isEmpty then .error (.missingUnit (String.ofList number))
      else .error (.unknownUnit (String.ofList unit))

/-- Adds the terms of a text to a sum. A number reaches as far as there are numerals, and a unit as
far as there are none. -/
def addTerms (sum : Binary64) (cs : List Char) : Except Error Binary64 :=
  if cs.isEmpty then .ok sum
  else
    let number := cs.takeWhile isNumeral
    let rest := cs.dropWhile isNumeral
    if number = [] ∨ number = ['.'] then .error (.numberExpected (String.ofList cs))
    else do
      let value ← term number (rest.takeWhile fun c => !isNumeral c)
      addTerms (sum.add value) (rest.dropWhile fun c => !isNumeral c)
  termination_by cs.length
  decreasing_by
    rename_i h
    have hlen := congrArg List.length (List.takeWhile_append_dropWhile (p := isNumeral) (l := cs))
    have hrest := (List.dropWhile_sublist (fun c => !isNumeral c) (l := cs.dropWhile isNumeral)).length_le
    have hpos : 0 < (cs.takeWhile isNumeral).length :=
      List.length_pos_iff.2 fun e => h (.inl e)
    rw [List.length_append] at hlen
    omega

/-- The whole nanoseconds in a sum of terms. -/
def wholeNanos : Binary64 → Except Error Nat
  | .finite _ units =>
    if limit * Binary64.one < units then .error .outOfRange
    else .ok (min (Binary64.roundToNat units) (limit - 1))
  | _ => .error .outOfRange

/-- The sign in front of a text, and the text behind it. -/
def sign : List Char → Bool × List Char
  | '-' :: cs => (true, cs)
  | '+' :: cs => (false, cs)
  | cs => (false, cs)

/-- The nanoseconds of a text without a sign. -/
def magnitude (cs : List Char) : Except Error Nat :=
  if cs = ['0'] then .ok 0
  else if cs.isEmpty then .error .empty
  else do wholeNanos (← addTerms (.finite false 0) cs)

/-- The duration that a text stands for. Blanks around it do not count. -/
def parse (s : String) : Except Error Duration := do
  let (negative, cs) := sign (Text.trim s.toList)
  return ⟨negative, ← magnitude cs⟩

end Duration

end Assay
