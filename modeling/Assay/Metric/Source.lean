import Assay.Environment
import Assay.Url.Basic

/-!
# Where metrics come from

The source of actual metrics is written as one text: the address of an endpoint, or the path of a
file. Only what reads as an address with a host is an endpoint, so `C:/metrics.txt` and
`localhost:9090/metrics` are paths.
-/

namespace Assay.Metric

/-- A source of actual metrics. -/
inductive Source where
  | endpoint (url : Url)
  | file (path : String)
  deriving DecidableEq, Repr

namespace Source

/-- What a text without references to the environment stands for. -/
def ofText (s : String) : Source :=
  match Url.parse? s with
  | none => .file s
  | some url =>
    if url.scheme = "file" then .file (url.filePath?.getD s)
    else if url.host.isSome then .endpoint url
    else .file s

/-- What a text stands for. -/
def read (env : Environment) (s : String) : Source :=
  ofText (env.expandText s)

/-- Whether a source is a file. -/
def isFile : Source → Bool
  | .endpoint _ => false
  | .file _ => true

end Source

end Assay.Metric
