import Assay.Document.Lenient
import Assay.Json.Scalar
import Assay.Text.Blank

/-!
# Traces

A trace is a list of spans, each a recorded operation with tags and with references to other spans.
The same types serve both sides of a comparison: an actual trace holds concrete values, an expected
one holds predicates. Traces are read from documents and written as JSON values.
-/

namespace Assay

open Document (Node)

/-- A value written as a whole number or as text. -/
inductive Quantity where
  | int (n : Int)
  | text (s : String)
  deriving DecidableEq, Repr

namespace Quantity

instance : Inhabited Quantity := ⟨.text ""⟩

/-- The value as text. -/
def written : Quantity → String
  | .int n => toString n
  | .text s => s

/-- The value as a number; a text that is none counts as zero. -/
def value : Quantity → Int
  | .int n => n
  | .text s => (Number.int64? (Text.trim s.toList)).getD 0

/-- Reads a number of 64 bits or a text, and nothing else. -/
def read (n : Node) : Except Document.Error Quantity := do
  match ← n.atom with
  | .whole n => if Number.isInt64 n then .ok (.int n) else .error .malformed
  | .text s => .ok (.text s)
  | _ => .error .malformed

/-- The form in which the value came. -/
def toJson : Quantity → Json
  | .int n => .whole n
  | .text s => .text s

end Quantity

/-- A causal link to a span, possibly of another trace. -/
structure Reference where
  spanId : String := ""
  traceId : String := ""
  /-- The relationship, for instance `CHILD_OF`. -/
  refType : String := ""
  deriving DecidableEq, Repr, Inhabited

/-- A recorded operation. -/
structure Span where
  traceId : String := ""
  spanId : String := ""
  parentSpanId : String := ""
  duration : Quantity := default
  flags : Quantity := default
  startTime : Quantity := default
  operationName : String := ""
  tags : Dictionary String := ∅
  references : List Reference := []
  /-- Carried along, and never compared. -/
  logs : List Json := []
  deriving Inhabited

/-- Spans that share an identifier. -/
structure Trace where
  traceId : String := ""
  spans : List Span := []
  deriving Inhabited

/-- Traces as captured or as expected. -/
structure Snapshot where
  /-- The declared number of traces, which is for information only. -/
  size : Option Nat := none
  traces : List Trace := []
  deriving Inhabited

namespace Reference

/-- The reference in error texts. -/
def summary (r : Reference) : String :=
  "Reference[" ++ r.refType ++ ", " ++ r.traceId ++ ", " ++ r.spanId ++ "]"

/-- Reads a reference. -/
def read : Node → Except Document.Error Reference :=
  Node.record [["spanId"], ["traceId"], ["refType"]] (fun r i n => do
    match i with
    | 0 => return { r with spanId := ← n.lenient }
    | 1 => return { r with traceId := ← n.lenient }
    | _ => return { r with refType := ← n.lenient }) {}

/-- The reference as a JSON value. -/
def toJson (r : Reference) : Json :=
  .ofFields [("spanId", .text r.spanId), ("traceId", .text r.traceId), ("refType", .text r.refType)]

end Reference

namespace Span

/-- The names of the fields, in their order. -/
def fieldNames : List (List String) :=
  [["traceId"], ["spanId"], ["parentSpanId"], ["duration"], ["flags"], ["startTime"],
    ["operationName"], ["tags"], ["references"], ["logs"]]

/-- Reads the field at a position. -/
def readField (s : Span) (i : Nat) (n : Node) : Except Document.Error Span := do
  match i with
  | 0 => return { s with traceId := ← n.lenient }
  | 1 => return { s with spanId := ← n.lenient }
  | 2 => return { s with parentSpanId := ← n.lenient }
  | 3 => return { s with duration := ← Quantity.read n }
  | 4 => return { s with flags := ← Quantity.read n }
  | 5 => return { s with startTime := ← Quantity.read n }
  | 6 => return { s with operationName := ← n.lenient }
  | 7 => return { s with tags := ← n.lenientDictionary }
  | 8 => return { s with references := ← n.items Reference.read }
  | _ => return { s with logs := ← n.items Node.json }

/-- Reads a span. -/
def read : Node → Except Document.Error Span :=
  Node.record fieldNames readField {}

/-- The span as a JSON value; logs appear only if there are some. -/
def toJson (s : Span) : Json :=
  .ofFields ([("traceId", .text s.traceId), ("spanId", .text s.spanId),
    ("parentSpanId", .text s.parentSpanId), ("duration", s.duration.toJson),
    ("flags", s.flags.toJson), ("startTime", s.startTime.toJson),
    ("operationName", .text s.operationName), ("tags", .ofTexts s.tags),
    ("references", .list (s.references.map Reference.toJson))] ++
    if s.logs.isEmpty then [] else [("logs", .list s.logs)])

end Span

namespace Trace

/-- Reads a trace. -/
def read : Node → Except Document.Error Trace :=
  Node.record [["traceId"], ["spans"]] (fun t i n => do
    match i with
    | 0 => return { t with traceId := ← n.lenient }
    | _ => return { t with spans := ← n.items Span.read }) {}

/-- The trace as a JSON value. -/
def toJson (t : Trace) : Json :=
  .ofFields [("traceId", .text t.traceId), ("spans", .list (t.spans.map Span.toJson))]

/-- The trace with its spans by ascending start time; spans of one start time keep their order. -/
def sortSpans (t : Trace) : Trace :=
  { t with spans := t.spans.mergeSort fun a b => a.startTime.value ≤ b.startTime.value }

end Trace

namespace Snapshot

/-- Reads a snapshot. -/
def read : Node → Except Document.Error Snapshot :=
  Node.record [["size"], ["traces"]] (fun s i n => do
    match i with
    | 0 => return { s with size := ← n.optional Node.uint64 }
    | _ => return { s with traces := ← n.items Trace.read }) {}

/-- The snapshot as a JSON value; the size appears only if it is declared. -/
def toJson (s : Snapshot) : Json :=
  .ofFields ((s.size.map fun n => ("size", Json.whole n)).toList ++
    [("traces", .list (s.traces.map Trace.toJson))])

/-- The snapshot with the spans of every trace sorted. -/
def sortSpans (s : Snapshot) : Snapshot :=
  { s with traces := s.traces.map Trace.sortSpans }

end Snapshot

end Assay
