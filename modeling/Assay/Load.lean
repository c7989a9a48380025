import Assay.Exposition.Scrape
import Assay.Files.Basic
import Assay.Files.Path
import Assay.Json.Reader
import Assay.Metric.Source
import Assay.Trace.Basic
import Assay.Yaml.Document

/-!
# Loading snapshots

Snapshots of traces and metrics are read from files. The ending of a file's name settles whether it
is YAML or JSON; actual metrics are JSON if they start like a list, and a scrape otherwise. A run
reaches no endpoint: to ask one for metrics is an error of its own.
-/

namespace Assay

open Document (Node Source)

namespace Load

/-- Why something cannot be loaded. -/
inductive Error where
  | file (path : String) (cause : Files.Error)
  | document (path : String) (cause : Document.Error)
  /-- An endpoint cannot be reached. -/
  | endpoint (address : String)
  | scrape (line : Nat) (cause : Exposition.LineError)
  deriving DecidableEq, Repr

/-- The wording of an error. -/
def Error.message : Error → String
  | .file path cause => "failed to read " ++ path ++ ": " ++ cause.message
  | .document path cause => "failed to parse " ++ path ++ ": " ++ cause.message
  | .endpoint address => "failed to fetch metrics from " ++ address ++ ": <reason>"
  | .scrape line cause =>
    "invalid exposition format at line " ++ toString line ++ ": " ++ cause.message

/-- Whether the ending of a path is one of YAML files. Case does not count. -/
def isYaml (path : String) : Bool :=
  match Path.ending? path with
  | some ending => Text.sameLetters ending "yml" || Text.sameLetters ending "yaml"
  | none => false

/-- A text as a document, in the format that a path asks for. -/
def source (path content : String) : Source :=
  if isYaml path then Yaml.source content.toList else Json.source content.toList

/-- Reads the file at a path. -/
def content (files : Files) (path : String) : Except Error String :=
  (files.read path).mapError (.file path)

/-- Reads the document at a path. -/
def document {α : Type} (read : Node → Except Document.Error α) (files : Files) (path : String) :
    Except Error α := do
  let text ← content files path
  ((source path text).read read).mapError (.document path)

/-- Loads traces, with the spans of each in order of their start. -/
def traces (files : Files) (path : String) : Except Error Snapshot := do
  let s ← document Snapshot.read files path
  return { s with traces := s.traces.map Trace.sortSpans }

/-- Loads the metrics to expect. -/
def expectedMetrics (files : Files) (path : String) : Except Error (List Metric.Family) :=
  document (Node.items Metric.Family.read) files path

/-- The metrics in the text of a file. -/
def metricsOfText (path text : String) : Except Error (List Metric.Family) :=
  if (Text.trimStart text.toList).head? = some '[' then
    ((Json.source text.toList).read (Node.items Metric.Family.read)).mapError (.document path)
  else (Exposition.parse text).mapError fun e => .scrape e.1 e.2

/-- Loads the metrics of a source. -/
def metrics (env : Environment) (files : Files) (source : String) :
    Except Error (List Metric.Family) :=
  match Metric.Source.read env source with
  | .endpoint url => .error (.endpoint url.text)
  | .file path => do metricsOfText path (← content files path)

end Load

end Assay
