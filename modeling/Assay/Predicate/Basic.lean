import Assay.Number.Literal
import Assay.Regex.Syntax
import Assay.Text.Blank
import Assay.Text.Cut

/-!
# Predicates

An expectation is written as a text. Its first word may be the keyword of an operator, the rest is
then the operand; any other text asks for equality with itself, and a blank text asks for nothing.
A predicate holds of an actual text, fails on it, or cannot be applied at all: a numeric operand or
actual text may be no number, and a pattern may be ill formed. What a pattern matches is left to an
engine for regular expressions.
-/

namespace Assay.Predicate

/-- How an actual text is compared. -/
inductive Operator where
  /-- Nothing is asked. -/
  | noop
  /-- The same text. -/
  | eq
  /-- A different text. -/
  | ne
  /-- A number at least as large as the operand. -/
  | ge
  /-- A number larger than the operand. -/
  | gt
  /-- A number at most as large as the operand. -/
  | le
  /-- A number smaller than the operand. -/
  | lt
  /-- The empty text. -/
  | empty
  /-- A text that is not empty. -/
  | notEmpty
  /-- A text in which the operand, a regular expression, has a match. -/
  | regexp
  deriving DecidableEq, Repr, Inhabited

namespace Operator

/-- The word that stands for the operator. -/
def keyword : Operator → String
  | .noop => "noop"
  | .eq => "eq"
  | .ne => "ne"
  | .ge => "ge"
  | .gt => "gt"
  | .le => "le"
  | .lt => "lt"
  | .empty => "empty"
  | .notEmpty => "notEmpty"
  | .regexp => "regexp"

/-- All operators. -/
def all : List Operator :=
  [.noop, .eq, .ne, .ge, .gt, .le, .lt, .empty, .notEmpty, .regexp]

/-- The operator that a word stands for; case counts. -/
def ofKeyword? (word : String) : Option Operator :=
  all.find? fun o => o.keyword == word

/-- The operators that compare numbers. -/
def isNumeric : Operator → Bool
  | .ge | .gt | .le | .lt => true
  | _ => false

end Operator

end Assay.Predicate

namespace Assay

/-- An expectation about one text: an operator and its operand as written. -/
structure Predicate where
  operator : Predicate.Operator
  operand : String
  deriving DecidableEq, Repr, Inhabited

namespace Predicate

/-- The two sides of a numeric comparison. -/
inductive Side where
  | expected
  | actual
  deriving DecidableEq, Repr

/-- The word for a side. -/
def Side.text : Side → String
  | .expected => "expected"
  | .actual => "actual"

/-- Why a predicate does not accept a text. -/
inductive Error where
  /-- The text does not satisfy the predicate. -/
  | mismatch (operator : Operator) (operand actual : String)
  /-- A side of a numeric comparison is no number. -/
  | notANumber (side : Side) (value : String) (reason : Number.LiteralError)
  /-- The operand is no regular expression. -/
  | badPattern (pattern : String)
  deriving DecidableEq, Repr

namespace Error

/-- Whether the predicate could not be applied, as opposed to failing. -/
def isMalformed : Error → Bool
  | .mismatch .. => false
  | _ => true

/-- What was asked for. -/
def asked (operator : Operator) (operand : String) : String :=
  match operator with
  | .eq | .noop => operand
  | .empty | .notEmpty => operator.keyword
  | _ => operator.keyword ++ " " ++ operand

/-- The wording of an error. What exactly is wrong with a pattern is left open. -/
def message : Error → String
  | .mismatch operator operand actual =>
    "--expectedValue => " ++ asked operator operand ++ ", ++actualValue => " ++ actual
  | .notANumber side value reason =>
    "failed to parse " ++ side.text ++ " value '" ++ value ++ "' as a number: " ++ reason.message
  | .badPattern pattern => "invalid regular expression '" ++ pattern ++ "': <regex error>"

end Error

/-- Reads a predicate. The keyword ends at the first space, and the rest is kept as it is. -/
def parse (text : String) : Predicate :=
  let cs := Text.trim text.toList
  if cs.isEmpty then ⟨.noop, ""⟩
  else
    let (head, rest) := (Text.cut (· = ' ') cs).getD (cs, [])
    match Operator.ofKeyword? (String.ofList head) with
    | some operator => ⟨operator, String.ofList rest⟩
    | none => ⟨.eq, String.ofList cs⟩

/-- The text that reads as a predicate. -/
def written (p : Predicate) : String :=
  p.operator.keyword ++ " " ++ p.operand

/-- The number on a side of a comparison. -/
def number (side : Side) (value : String) : Except Error Binary64 :=
  match Number.literal value.toList with
  | .ok x => .ok x
  | .error reason => .error (.notANumber side value reason)

/-- An operand made ready: numbers are read and patterns compiled. -/
inductive Operand where
  | text
  | number (x : Binary64)
  | pattern (accepts : String → Bool)

/-- The operand that an operator needs. -/
def prepare (engine : Regex.Engine) (p : Predicate) : Except Error Operand :=
  if p.operator.isNumeric then (number .expected p.operand).map .number
  else if p.operator = .regexp then
    match engine.matcher? p.operand with
    | some accepts => .ok (.pattern accepts)
    | none => .error (.badPattern p.operand)
  else .ok .text

/-- Whether a numeric operator relates an actual number to the expected one. -/
def compares (operator : Operator) (actual expected : Binary64) : Bool :=
  match Binary64.compare? actual expected with
  | none => false
  | some order =>
    match operator with
    | .gt => order = .gt
    | .ge => order ≠ .lt
    | .lt => order = .lt
    | .le => order ≠ .gt
    | _ => false

/-- A predicate with its operand made ready, which can be applied to any number of texts. -/
structure Prepared where
  predicate : Predicate
  operand : Except Error Operand

/-- Makes the operand ready. -/
def ready (p : Predicate) (engine : Regex.Engine := .standard) : Prepared :=
  ⟨p, p.prepare engine⟩

/-- Whether an actual text satisfies a predicate. -/
def Prepared.satisfies (p : Prepared) (actual : String) : Except Error Bool :=
  match p.operand with
  | .error e => .error e
  | .ok operand =>
    match p.predicate.operator with
    | .noop => .ok true
    | .eq => .ok (p.predicate.operand == actual)
    | .ne => .ok (p.predicate.operand != actual)
    | .empty => .ok actual.isEmpty
    | .notEmpty => .ok !actual.isEmpty
    | operator =>
      match operand with
      | .number expected => (number .actual actual).map fun x => compares operator x expected
      | .pattern accepts => .ok (accepts actual)
      | .text => .ok false

/-- Applies a predicate to an actual text. -/
def Prepared.evaluate (p : Prepared) (actual : String) : Except Error Unit :=
  match p.satisfies actual with
  | .error e => .error e
  | .ok true => .ok ()
  | .ok false => .error (.mismatch p.predicate.operator p.predicate.operand actual)

/-- Applies a predicate to an actual text. -/
def evaluate (engine : Regex.Engine) (p : Predicate) (actual : String) : Except Error Unit :=
  (p.ready engine).evaluate actual

/-- Reads a predicate and applies it to an actual text. -/
def check (engine : Regex.Engine) (text actual : String) : Except Error Unit :=
  (parse text).evaluate engine actual

end Predicate

end Assay
