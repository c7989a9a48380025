import Assay.Assignment
import Assay.Judge

/-!
# Matching traces

Every expected trace is bound, in order, to the first actual trace that is not yet bound and that
matches it: it must have as many spans, and each expected span a span of its own that satisfies it.
Actual traces that are left over do no harm; actual spans do.
-/

namespace Assay.Judge

open Assignment

/-- The tag whose expected value may refer to the environment. -/
def urlTag : String := "http.url"

/-- The predicate for a tag. -/
def tagPredicate (j : Judge) (key predicate : String) : String :=
  if key = urlTag then j.env.expandText predicate else predicate

/-- Compares the tags of a list with actual tags, which must have each of them. -/
def tagEntries (j : Judge) (actual : Dictionary String) :
    List (String × String) → Except Discrepancy Unit
  | [] => .ok ()
  | (key, predicate) :: rest =>
    match actual.get? key with
    | none => .error (.missingKey "tag" key)
    | some v => do
      j.value ("tag[" ++ key ++ "]") (j.tagPredicate key predicate) v
      j.tagEntries actual rest

/-- Compares tags, which must have the same keys. -/
def tags (j : Judge) (expected actual : Dictionary String) : Except Discrepancy Unit :=
  if expected.size ≠ actual.size then .error (.size "tags" expected.size actual.size)
  else j.tagEntries actual expected.entries

/-- Compares two references. -/
def reference (j : Judge) (expected actual : Reference) : Except FieldError Unit := do
  j.field "refType" expected.refType actual.refType
  j.field "spanId" expected.spanId actual.spanId
  j.field "traceId" expected.traceId actual.traceId

/-- Looks for a reference among actual ones; the reasons tell why each of them is another one. -/
def findReference (j : Judge) (expected : Reference) :
    List Reference → Except (List (Reference × FieldError)) Unit
  | [] => .error []
  | candidate :: rest =>
    match j.reference expected candidate with
    | .ok _ => .ok ()
    | .error e => (j.findReference expected rest).mapError ((candidate, e) :: ·)

/-- Looks for every reference of a list among actual ones. -/
def referenceEntries (j : Judge) (actual : List Reference) :
    List Reference → Except Discrepancy Unit
  | [] => .ok ()
  | expected :: rest =>
    match j.findReference expected actual with
    | .error reasons => .error (.referenceNotFound expected reasons)
    | .ok _ => j.referenceEntries actual rest

/-- Compares references. Several expected ones may be found in one actual reference, and actual
ones may be left over. -/
def references (j : Judge) (expected actual : List Reference) : Except Discrepancy Unit :=
  if expected.isEmpty then .ok ()
  else if actual.isEmpty then .error .noReferences
  else j.referenceEntries actual expected

/-- Compares two spans, field by field. Identifiers of traces and logs do not count. -/
def span (j : Judge) (expected actual : Span) : Except Discrepancy Unit := do
  j.value "spanId" expected.spanId actual.spanId
  j.value "duration" expected.duration.written actual.duration.written
  j.value "flags" expected.flags.written actual.flags.written
  j.value "operationName" expected.operationName actual.operationName
  j.value "startTime" expected.startTime.written actual.startTime.written
  j.value "parentSpanId" expected.parentSpanId actual.parentSpanId
  j.tags expected.tags actual.tags
  j.references expected.references actual.references

/-- Tries spans, given with their positions. The result holds the positions of those that are
accepted, and the last one that is not. -/
def trySpans (j : Judge) (expected : Span) :
    List (Span × Nat) → List Nat × Option (Span × Discrepancy)
  | [] => ([], none)
  | (s, slot) :: rest =>
    let (slots, last) := j.trySpans expected rest
    match j.span expected s with
    | .ok _ => (slot :: slots, last)
    | .error e => (slots, last <|> some (s, e))

/-- The positions of the spans that an expected one accepts. Only spans with an accepted operation
name are tried. -/
def spanCandidates (j : Judge) (expected : Span) (pool : List Span) :
    Except Discrepancy (List Nat) :=
  let named := pool.zipIdx.filter fun s => j.accepts expected.operationName s.1.operationName
  if named.isEmpty then
    let first := pool.head?.getD {}
    match j.value "operationName" expected.operationName first.operationName with
    | .error reason => .error (.span expected.summary first.summary reason)
    | .ok _ => .error (.span expected.summary first.summary (.size "spans" 1 0))
  else
    match j.trySpans expected named with
    | ([], some (s, reason)) => .error (.span expected.summary s.summary reason)
    | (slots, _) => .ok slots

/-- Compares the spans of two traces. The expected spans look for their candidates side by side. -/
def spans (j : Judge) (expected actual : Trace) : Except Discrepancy Unit :=
  if expected.spans.length ≠ actual.spans.length then
    .error (.size "spans" expected.spans.length actual.spans.length)
  else do
    let candidates ←
      j.pick.settle (expected.spans.map fun s => j.spanCandidates s actual.spans)
    match assign candidates actual.spans.length with
    | .ok _ => .ok ()
    | .error unbound =>
      .error (.spansTaken ((expected.spans[unbound]?.map (·.operationName)).getD ""))

/-- Tries the traces that are not yet taken, given with their positions. The result is the
position of the first that matches, or else the last that was tried. -/
def firstFit (j : Judge) (expected : Trace) (taken : List Nat) :
    (last : Option (String × Discrepancy)) → List (Trace × Nat) →
    Except (Option (String × Discrepancy)) Nat
  | last, [] => .error last
  | last, (t, slot) :: rest =>
    if taken.contains slot then j.firstFit expected taken last rest
    else
      match j.spans expected t with
      | .ok _ => .ok slot
      | .error e => j.firstFit expected taken (some (t.traceId, e)) rest

/-- Binds the traces of a list one after the other. -/
def bindTraces (j : Judge) (actual : List Trace) :
    (taken : List Nat) → List Trace → Except Discrepancy Unit
  | _, [] => .ok ()
  | taken, expected :: rest =>
    match j.firstFit expected taken none actual.zipIdx with
    | .ok slot => j.bindTraces actual (slot :: taken) rest
    | .error none => .error (.tracesTaken (expected.spans.map Span.summary))
    | .error (some (traceId, cause)) =>
      .error (.trace (expected.spans.map Span.summary) traceId cause)

/-- Compares lists of traces. -/
def traces (j : Judge) (expected actual : List Trace) : Except Discrepancy Unit :=
  if expected.isEmpty then .error (.nothingExpected "traces")
  else j.bindTraces actual [] expected

/-- Compares snapshots; their declared sizes do not count. -/
def snapshot (j : Judge) (expected actual : Snapshot) : Except Discrepancy Unit :=
  j.traces expected.traces actual.traces

end Assay.Judge
