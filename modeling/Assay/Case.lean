import Assay.Document.Node
import Assay.Files.Path
import Assay.Metric.Source

/-!
# Cases

A case names what is to be compared: a file of expectations, and either a file of captured traces
or a source of metrics. A case with a source of metrics is about metrics, whatever else it names.
-/

namespace Assay

open Document (Node)

/-- One comparison to make. A setting that is not given is empty. -/
structure Case where
  name : String := ""
  /-- The file of what is expected. -/
  expected : String := ""
  /-- The file of captured traces. -/
  actual : String := ""
  /-- The source of actual metrics. -/
  query : String := ""
  deriving DecidableEq, Repr, Inhabited

namespace Case

/-- What a case compares. -/
inductive Kind where
  | traces
  | metrics
  deriving DecidableEq, Repr

/-- Why a case cannot be run; the text is how the case is displayed. -/
inductive Error where
  | noExpected (shown : String)
  | noActual (shown : String)
  deriving DecidableEq, Repr

/-- The wording of an error. -/
def Error.message : Error → String
  | .noExpected shown => "the expected data file for " ++ shown ++ " is not specified"
  | .noActual shown =>
    "neither the actual data file nor a query is specified for " ++ shown

/-- How a case is displayed: by its name, or else by its actual side. -/
def displayName (c : Case) : String :=
  if !c.name.isEmpty then c.name
  else if !c.actual.isEmpty then "case[" ++ c.actual ++ "]"
  else "case[" ++ c.query ++ "]"

/-- What a case compares. -/
def kind (c : Case) : Kind :=
  if c.query.isEmpty then .traces else .metrics

/-- Checks that a case names everything that its kind needs. -/
def validate (c : Case) : Except Error Unit :=
  if c.expected.isEmpty then .error (.noExpected c.displayName)
  else if c.kind = .traces ∧ c.actual.isEmpty then .error (.noActual c.displayName)
  else .ok ()

/-- Reads a case. -/
def read : Node → Except Document.Error Case :=
  Node.record [["name"], ["expected"], ["actual"], ["query"]] (fun c i n => do
    match i with
    | 0 => return { c with name := ← n.text }
    | 1 => return { c with expected := ← n.text }
    | 2 => return { c with actual := ← n.text }
    | _ => return { c with query := ← n.text }) {}

/-- A path relative to a directory, unless it is absolute, not given, or depends on the
environment. -/
def resolvePath (directory path : String) : String :=
  if path.isEmpty || path.toList.contains '$' || Path.isAbsolute path then path
  else Path.join directory path

/-- The case with its paths relative to a directory. An endpoint is no path. -/
def resolve (env : Environment) (directory : String) (c : Case) : Case :=
  { c with
    expected := resolvePath directory c.expected
    actual := resolvePath directory c.actual
    query :=
      if (Metric.Source.read env c.query).isFile then resolvePath directory c.query else c.query }

end Case

end Assay
