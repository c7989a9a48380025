import Assay.Document.Node
import Assay.Number.Shortest

/-!
# Lenient texts

Documents are written by hand, so where a text is stored a number or a truth value will do as well:
`1` and `"1"` mean the same. Null stands for the empty text, and for the empty dictionary.
-/

namespace Assay.Document

/-- The text for a scalar that is not null. -/
def Atom.text? : Atom → Option String
  | .null => none
  | .bool b => some (if b then "true" else "false")
  | .whole n => some (toString n)
  | .real x => some x.text
  | .text s => some s

namespace Node

/-- A scalar other than null as text. -/
def atomText (n : Node) : Except Error String := do
  require (← n.atom).text?

/-- A scalar as text that may be absent. -/
def lenientOption (n : Node) : Except Error (Option String) :=
  n.optional atomText

/-- A scalar as text, null as the empty one. -/
def lenient (n : Node) : Except Error String := do
  return (← n.lenientOption).getD ""

/-- A dictionary of lenient texts, null as the empty one. -/
def lenientDictionary (n : Node) : Except Error (Dictionary String) := do
  return (← n.optional (dictionary lenient)).getD ∅

end Node

end Assay.Document
