import Assay.Document.Node

/-!
# JSON values as documents

Which readings a JSON scalar admits: each kind is read as itself only, and null counts as absent.
A list may stand for a record. Any JSON value is thus a document.
-/

namespace Assay.Json

open Document (Atom Scalar Node Form)

/-- The readings of a JSON scalar. -/
def scalarOf : Atom → Scalar
  | .null => { atom? := some .null, absent? := some true }
  | .bool b => { atom? := some (.bool b), bool? := some b }
  | .whole n =>
    { atom? := some (.whole n)
      int? := if Number.isInt64 n then some n else none
      nat? := if 0 ≤ n then some n.toNat else none }
  | .real x => { atom? := some (.real x) }
  | .text s => { atom? := some (.text s), text? := some s }

/-- A scalar that is well formed but has no value: it can be passed over, not read. -/
def unreadable : Scalar := { absent? := none }

mutual

/-- A JSON value as a document. -/
def node : Json → Node
  | .null => .scalar (scalarOf .null)
  | .bool b => .scalar (scalarOf (.bool b))
  | .whole n => .scalar (scalarOf (.whole n))
  | .real x => .scalar (scalarOf (.real x))
  | .text s => .scalar (scalarOf (.text s))
  | .list items => .list (nodeItems items) { positional := true }
  | .object fields => .table (nodeFields fields) {}

/-- The items of a list as documents. -/
def nodeItems : List Json → List Node
  | [] => []
  | j :: js => j.node :: nodeItems js

/-- The fields of an object as entries. -/
def nodeFields : List (String × Json) → List (Node × Node)
  | [] => []
  | (k, j) :: fs => (.scalar (scalarOf (.text k)), j.node) :: nodeFields fs

end

end Assay.Json
