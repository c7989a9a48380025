import Assay.Document.Lenient
import Assay.Json.Scalar
import Assay.Text.Cut

/-!
# Metric families

A family is a named group of samples of one kind, and the kind settles the shape of the samples. As
with traces, the expected side holds predicates where the actual side holds values. Families are
read from documents and written as JSON values.
-/

namespace Assay

open Document (Node)

namespace Metric

/-- The labels of a sample. -/
abbrev Labels := Dictionary String

/-- The kind of a family. -/
inductive Kind where
  | counter
  | gauge
  | untyped
  | summary
  | histogram
  deriving DecidableEq, Repr, Inhabited

namespace Kind

/-- The name of a kind, in capitals. -/
def name : Kind → String
  | .counter => "COUNTER"
  | .gauge => "GAUGE"
  | .untyped => "UNTYPED"
  | .summary => "SUMMARY"
  | .histogram => "HISTOGRAM"

/-- The kind that a name stands for. Case does not count, and an unknown or empty name is that of
an untyped family. The error gives the name in lower case. -/
def ofName (s : String) : Except String Kind :=
  match Text.lowered s with
  | "counter" => .ok .counter
  | "gauge" => .ok .gauge
  | "untyped" | "unknown" | "" => .ok .untyped
  | "summary" => .ok .summary
  | "histogram" => .ok .histogram
  | other => .error other

/-- The complaint about a name that stands for no kind. -/
def unknownMessage (name : String) : String :=
  "unknown metric type '" ++ name ++ "'"

end Kind

/-- A sample with one value. -/
structure Plain where
  labels : Labels := ∅
  timestamp : Option String := none
  value : String := ""
  deriving DecidableEq, Inhabited

/-- A sample with quantiles. -/
structure Summary where
  labels : Labels := ∅
  timestamp : Option String := none
  quantiles : Dictionary String := ∅
  count : String := ""
  sum : String := ""
  deriving DecidableEq, Inhabited

/-- A sample with buckets, each under its upper bound. -/
structure Histogram where
  labels : Labels := ∅
  timestamp : Option String := none
  buckets : Dictionary String := ∅
  count : String := ""
  sum : String := ""
  deriving DecidableEq, Inhabited

/-- A sample of any shape. -/
inductive Sample where
  | plain (s : Plain)
  | summary (s : Summary)
  | histogram (s : Histogram)
  deriving DecidableEq, Inhabited

namespace Sample

/-- The labels, whatever the shape. -/
def labels : Sample → Labels
  | .plain s => s.labels
  | .summary s => s.labels
  | .histogram s => s.labels

/-- The name of the shape. -/
def shape : Sample → String
  | .plain _ => "plain"
  | .summary _ => "summary"
  | .histogram _ => "histogram"

/-- Whether the shape is the one for a kind. -/
def fits : Sample → Kind → Bool
  | .summary _, .summary => true
  | .histogram _, .histogram => true
  | .plain _, .counter => true
  | .plain _, .gauge => true
  | .plain _, .untyped => true
  | _, _ => false

/-- Reads a sample with one value. -/
def readPlain : Node → Except Document.Error Plain :=
  Node.record [["labels"], ["timestamp_ms"], ["value"]] (fun s i n => do
    match i with
    | 0 => return { s with labels := ← n.lenientDictionary }
    | 1 => return { s with timestamp := ← n.lenientOption }
    | _ => return { s with value := ← n.lenient }) {}

/-- Reads a sample with quantiles. -/
def readSummary : Node → Except Document.Error Summary :=
  Node.record [["labels"], ["timestamp_ms"], ["quantiles"], ["count"], ["sum"]] (fun s i n => do
    match i with
    | 0 => return { s with labels := ← n.lenientDictionary }
    | 1 => return { s with timestamp := ← n.lenientOption }
    | 2 => return { s with quantiles := ← n.lenientDictionary }
    | 3 => return { s with count := ← n.lenient }
    | _ => return { s with sum := ← n.lenient }) {}

/-- Reads a sample with buckets. -/
def readHistogram : Node → Except Document.Error Histogram :=
  Node.record [["labels"], ["timestamp_ms"], ["buckets"], ["count"], ["sum"]] (fun s i n => do
    match i with
    | 0 => return { s with labels := ← n.lenientDictionary }
    | 1 => return { s with timestamp := ← n.lenientOption }
    | 2 => return { s with buckets := ← n.lenientDictionary }
    | 3 => return { s with count := ← n.lenient }
    | _ => return { s with sum := ← n.lenient }) {}

/-- Reads a sample in the shape for a kind. -/
def read (kind : Kind) (n : Node) : Except Document.Error Sample :=
  match kind with
  | .summary => (readSummary n).map .summary
  | .histogram => (readHistogram n).map .histogram
  | _ => (readPlain n).map .plain

/-- The fields that all shapes share, those that are absent left out. -/
def sharedFields (labels : Labels) (timestamp : Option String) : List (String × Json) :=
  (if labels.isEmpty then [] else [("labels", .ofTexts labels)]) ++
    (timestamp.map fun t => ("timestamp_ms", Json.text t)).toList

/-- The sample as a JSON value. -/
def toJson : Sample → Json
  | .plain s => .ofFields (sharedFields s.labels s.timestamp ++ [("value", .text s.value)])
  | .summary s =>
    .ofFields (sharedFields s.labels s.timestamp ++
      [("quantiles", .ofTexts s.quantiles), ("count", .text s.count), ("sum", .text s.sum)])
  | .histogram s =>
    .ofFields (sharedFields s.labels s.timestamp ++
      [("buckets", .ofTexts s.buckets), ("count", .text s.count), ("sum", .text s.sum)])

end Sample

/-- A named group of samples of one kind. -/
structure Family where
  /-- The name; on the expected side it may forbid families instead of naming one. -/
  name : String
  help : String := ""
  kind : Kind := .untyped
  samples : List Sample := []
  deriving DecidableEq, Inhabited

namespace Family

/-- Whether every sample has the shape for the kind of the family. -/
def wellShaped (f : Family) : Bool :=
  f.samples.all fun s => s.fits f.kind

/-- The fields of a family as written, with samples of any shape. -/
structure Raw where
  name : Option String := none
  help : String := ""
  kind : Kind := .untyped
  samples : List Json := []

/-- Reads the field at a position. -/
def Raw.readField (r : Raw) (i : Nat) (n : Node) : Except Document.Error Raw := do
  match i with
  | 0 => return { r with name := some (← n.text) }
  | 1 => return { r with help := ← n.lenient }
  | 2 =>
    match Kind.ofName (← n.text) with
    | .ok kind => return { r with kind := kind }
    | .error name => throw (.unknownType name)
  | _ => return { r with samples := ← n.items Node.json }

/-- Reads samples, given with their positions, in the shape for a kind. -/
def readSamples (name : String) (kind : Kind) :
    List (Json × Nat) → Except Document.Error (List Sample)
  | [] => .ok []
  | (j, i) :: rest =>
    match Sample.read kind j.node with
    | .error _ => .error (.sample name i)
    | .ok s => do return s :: (← readSamples name kind rest)

/-- Reads a family. The name is required, and the samples are read once the kind is known. -/
def read (n : Node) : Except Document.Error Family := do
  let raw ← n.record [["name"], ["help"], ["type"], ["metrics"]] Raw.readField {}
  let name ← Node.require raw.name
  return ⟨name, raw.help, raw.kind, ← readSamples name raw.kind raw.samples.zipIdx⟩

/-- The family as a JSON value. -/
def toJson (f : Family) : Json :=
  .ofFields [("name", .text f.name), ("help", .text f.help), ("type", .text f.kind.name),
    ("metrics", .list (f.samples.map Sample.toJson))]

end Family

end Metric

end Assay
