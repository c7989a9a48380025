import Assay.Metric.Basic
import Assay.Predicate.Basic
import Assay.Trace.Basic

/-!
# Discrepancies

Why actual data does not satisfy an expectation. A discrepancy names what was compared and, where a
comparison failed for a reason within, that reason. Each has one wording, given by `message`.
-/

namespace Assay

/-- A field that does not satisfy its predicate. -/
structure FieldError where
  field : String
  cause : Predicate.Error
  deriving DecidableEq, Repr

/-- The wording for a field. -/
def FieldError.message (e : FieldError) : String :=
  e.field ++ ": " ++ e.cause.message

/-- What identifies a span in error texts. -/
structure SpanSummary where
  traceId : String
  parentSpanId : String
  spanId : String
  operationName : String
  deriving DecidableEq, Repr

/-- The summary of a span. -/
def Span.summary (s : Span) : SpanSummary :=
  ⟨s.traceId, s.parentSpanId, s.spanId, s.operationName⟩

/-- The wording for a span. -/
def SpanSummary.message (s : SpanSummary) : String :=
  "Span[" ++ s.parentSpanId ++ ", " ++ s.spanId ++ "] " ++ s.operationName

/-- Why actual data does not satisfy an expectation. -/
inductive Discrepancy where
  /-- A field fails its predicate. -/
  | field (e : FieldError)
  /-- Two collections that must have the same size have not. -/
  | size (what : String) (expected actual : Nat)
  /-- An expected key is missing. -/
  | missingKey (what key : String)
  /-- References are expected, and the actual span has none. -/
  | noReferences
  /-- No actual reference is the expected one; the reasons are given one by one. -/
  | referenceNotFound (expected : Reference) (reasons : List (Reference × FieldError))
  /-- All spans that an expected one accepts are needed for others. -/
  | spansTaken (operationName : String)
  /-- No actual span is accepted; the last one that was tried, and what is wrong with it. -/
  | span (expected actual : SpanSummary) (reason : Discrepancy)
  /-- All actual traces are bound to other expected ones. -/
  | tracesTaken (expected : List SpanSummary)
  /-- No trace that is left matches; the last one that was tried, and what is wrong with it. -/
  | trace (expected : List SpanSummary) (traceId : String) (cause : Discrepancy)
  /-- Nothing is expected at all. -/
  | nothingExpected (what : String)
  /-- There is no family of the expected name and kind. -/
  | familyNotFound (name : String) (kind : Metric.Kind)
  /-- There is a family that must not be. -/
  | familyPresent (pattern found : String)
  /-- The names of families that must not be are no regular expression. -/
  | badPattern (pattern : String)
  /-- Something is wrong within a family. -/
  | family (name : String) (cause : Discrepancy)
  /-- No actual sample is left for an expected one. -/
  | samplesTaken (index : Nat)
  /-- No actual sample is accepted; what is wrong with the last one that was tried. -/
  | sample (index : Nat) (reason : Discrepancy)
  /-- An actual sample has fewer labels than expected. -/
  | tooFewLabels (expected actual : Nat)
  /-- Two samples differ in shape. -/
  | shape (expected actual : String)
  deriving DecidableEq, Repr

namespace Discrepancy

/-- The list of an expected trace's spans. -/
def spanList (spans : List SpanSummary) : String :=
  String.join (spans.map fun s => "  - " ++ s.message ++ "\n")

/-- The wording of a missing trace, given what is known of the actual ones. -/
def traceNotFound (spans : List SpanSummary) (actual : String) : String :=
  "TraceNotFoundError:\nexpected:\n" ++ spanList spans ++ "actual:\n" ++ actual

/-- The wording of a missing sample, given the reason. -/
def sampleNotFound (index : Nat) (reason : String) : String :=
  "no actual sample matches expected sample #" ++ toString index ++ ": " ++ reason

/-- The wording of a discrepancy. -/
def message : Discrepancy → String
  | .field e => e.message
  | .size what expected actual =>
    what ++ " size not equal: expected=>" ++ toString expected ++ ", actual=>" ++ toString actual
  | .missingKey what key => what ++ " '" ++ key ++ "' is missing on the actual side"
  | .noReferences => "actual span has no references"
  | .referenceNotFound expected reasons =>
    "ReferenceNotFound: " ++ expected.summary ++
      String.join (reasons.map fun r => "\n  - " ++ r.1.summary ++ ": " ++ r.2.message)
  | .spansTaken operationName =>
    "every actual span named '" ++ operationName ++
      "' is already matched by another expected span"
  | .span expected actual reason =>
    "expected:\t" ++ expected.message ++ "\nactual:\t" ++ actual.message ++
      "\n  reason:\t" ++ reason.message
  | .tracesTaken expected => traceNotFound expected "  no unmatched actual trace left"
  | .trace expected traceId cause =>
    traceNotFound expected ("  Trace[" ++ traceId ++ "]:\n" ++ cause.message)
  | .nothingExpected what => "expected " ++ what ++ " can not be empty"
  | .familyNotFound name kind => "FamilyNotFoundError: expected[" ++ name ++ " " ++ kind.name ++ "]"
  | .familyPresent pattern found =>
    "expected notContains Metrics[\x60" ++ pattern ++ "\x60], but found \x60" ++ found ++ "\x60"
  | .badPattern pattern => "invalid notContains pattern \x60" ++ pattern ++ "\x60: <regex error>"
  | .family name cause => "Metric[" ++ name ++ "]: " ++ cause.message
  | .samplesTaken index => sampleNotFound index "no unmatched actual sample left"
  | .sample index reason => sampleNotFound index reason.message
  | .tooFewLabels expected actual =>
    "len(actualLabels) < len(expectedLabels), expected: " ++ toString expected ++
      ", actual: " ++ toString actual
  | .shape expected actual =>
    "sample shape differs: expected " ++ expected ++ ", actual " ++ actual

end Discrepancy

end Assay
