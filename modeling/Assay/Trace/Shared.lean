import Assay.Shared
import Assay.Trace.Match

/-!
# Matching traces with shared predicates

Traces are matched as a judge matches them, with predicates from a cache. The expected spans of a
trace look for their candidates side by side; everything else is done one after the other.
-/

namespace Assay.Shared

open Assignment
open Predicate (Work)

/-- Compares the tags of a list with actual tags, which must have each of them. -/
def tagEntries (env : Environment) (actual : Dictionary String) :
    List (String × String) → ExceptT Discrepancy Work Unit
  | [] => return ()
  | (key, predicate) :: rest =>
    match actual.get? key with
    | none => throw (.missingKey "tag" key)
    | some v => do
      value ("tag[" ++ key ++ "]") (Judge.tagPredicate { env } key predicate) v
      tagEntries env actual rest

/-- Compares tags, which must have the same keys. -/
def tags (env : Environment) (expected actual : Dictionary String) :
    ExceptT Discrepancy Work Unit :=
  if expected.size ≠ actual.size then throw (.size "tags" expected.size actual.size)
  else tagEntries env actual expected.entries

/-- Compares two references. -/
def reference (expected actual : Reference) : ExceptT FieldError Work Unit := do
  field "refType" expected.refType actual.refType
  field "spanId" expected.spanId actual.spanId
  field "traceId" expected.traceId actual.traceId

/-- Looks for a reference among actual ones, up to the first that is accepted. -/
def findReference (expected : Reference) :
    List Reference → ExceptT (List (Reference × FieldError)) Work Unit
  | [] => throw []
  | candidate :: rest => .mk do
    match ← (reference expected candidate).run with
    | .ok _ => return .ok ()
    | .error e => return (← (findReference expected rest).run).mapError ((candidate, e) :: ·)

/-- Looks for every reference of a list among actual ones. -/
def referenceEntries (actual : List Reference) :
    List Reference → ExceptT Discrepancy Work Unit
  | [] => return ()
  | expected :: rest => .mk do
    match ← (findReference expected actual).run with
    | .error reasons => return .error (.referenceNotFound expected reasons)
    | .ok _ => (referenceEntries actual rest).run

/-- Compares references. -/
def references (expected actual : List Reference) : ExceptT Discrepancy Work Unit :=
  if expected.isEmpty then return ()
  else if actual.isEmpty then throw .noReferences
  else referenceEntries actual expected

/-- Compares two spans, field by field. -/
def span (env : Environment) (expected actual : Span) : ExceptT Discrepancy Work Unit := do
  value "spanId" expected.spanId actual.spanId
  value "duration" expected.duration.written actual.duration.written
  value "flags" expected.flags.written actual.flags.written
  value "operationName" expected.operationName actual.operationName
  value "startTime" expected.startTime.written actual.startTime.written
  value "parentSpanId" expected.parentSpanId actual.parentSpanId
  tags env expected.tags actual.tags
  references expected.references actual.references

/-- The spans, given with their positions, whose operation names are accepted. -/
def named (expected : Span) : List (Span × Nat) → Work (List (Span × Nat))
  | [] => return []
  | s :: rest => do
    let accepted ← accepts expected.operationName s.1.operationName
    let others ← named expected rest
    return if accepted then s :: others else others

/-- Tries spans, given with their positions. -/
def trySpans (env : Environment) (expected : Span) :
    List (Span × Nat) → Work (List Nat × Option (Span × Discrepancy))
  | [] => return ([], none)
  | (s, slot) :: rest => do
    let result ← (span env expected s).run
    let (slots, last) ← trySpans env expected rest
    match result with
    | .ok _ => return (slot :: slots, last)
    | .error e => return (slots, last <|> some (s, e))

/-- The positions of the spans that an expected one accepts. -/
def spanCandidates (env : Environment) (expected : Span) (pool : List Span) :
    ExceptT Discrepancy Work (List Nat) := .mk do
  let named ← named expected pool.zipIdx
  if named.isEmpty then
    let first := pool.head?.getD {}
    match ← (value "operationName" expected.operationName first.operationName).run with
    | .error reason => return .error (.span expected.summary first.summary reason)
    | .ok _ => return .error (.span expected.summary first.summary (.size "spans" 1 0))
  else
    match ← trySpans env expected named with
    | ([], some (s, reason)) => return .error (.span expected.summary s.summary reason)
    | (slots, _) => return .ok slots

/-- Compares the spans of two traces. -/
def spans (env : Environment) (expected actual : Trace) : ExceptT Discrepancy Work Unit :=
  if expected.spans.length ≠ actual.spans.length then
    throw (.size "spans" expected.spans.length actual.spans.length)
  else do
    let candidates ← forEach (fun s => spanCandidates env s actual.spans) expected.spans
    match assign candidates actual.spans.length with
    | .ok _ => return ()
    | .error unbound =>
      throw (.spansTaken ((expected.spans[unbound]?.map (·.operationName)).getD ""))

/-- Tries the traces that are not yet taken, given with their positions, up to the first that
matches. -/
def firstFit (env : Environment) (expected : Trace) (taken : List Nat) :
    (last : Option (String × Discrepancy)) → List (Trace × Nat) →
    ExceptT (Option (String × Discrepancy)) Work Nat
  | last, [] => throw last
  | last, (t, slot) :: rest =>
    if taken.contains slot then firstFit env expected taken last rest
    else .mk do
      match ← (spans env expected t).run with
      | .ok _ => return .ok slot
      | .error e => (firstFit env expected taken (some (t.traceId, e)) rest).run

/-- Binds the traces of a list one after the other. -/
def bindTraces (env : Environment) (actual : List Trace) :
    (taken : List Nat) → List Trace → ExceptT Discrepancy Work Unit
  | _, [] => return ()
  | taken, expected :: rest => .mk do
    match ← (firstFit env expected taken none actual.zipIdx).run with
    | .ok slot => (bindTraces env actual (slot :: taken) rest).run
    | .error none => return .error (.tracesTaken (expected.spans.map Span.summary))
    | .error (some (traceId, cause)) =>
      return .error (.trace (expected.spans.map Span.summary) traceId cause)

/-- Compares lists of traces. -/
def traces (env : Environment) (expected actual : List Trace) : ExceptT Discrepancy Work Unit :=
  if expected.isEmpty then throw (.nothingExpected "traces")
  else bindTraces env actual [] expected

end Assay.Shared
