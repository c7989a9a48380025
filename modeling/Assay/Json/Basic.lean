import Assay.Dictionary
import Assay.Number.Binary64

/-!
# JSON values

A value of any shape. The fields of an object are kept in ascending order of their names, each
name once.
-/

namespace Assay

/-- A JSON value. Whole numbers are those that a word of 64 bits holds, signed or unsigned; all
other numbers are binary64. -/
inductive Json where
  | null
  | bool (b : Bool)
  | whole (n : Int)
  | real (x : Binary64)
  | text (s : String)
  | list (items : List Json)
  | object (fields : List (String × Json))
  deriving Inhabited, Repr

namespace Json

/-- An object with the given fields, the later of two of one name winning. -/
def ofFields (fields : List (String × Json)) : Json :=
  .object (fields.foldl (fun es f => Dictionary.insertEntry f.1 f.2 es) [])

/-- A dictionary of texts as an object. -/
def ofTexts (d : Dictionary String) : Json :=
  .object (d.map Json.text).entries

/-- The field of an object under a name. -/
def field? (name : String) : Json → Option Json
  | .object fields => fields.lookup name
  | _ => none

end Json

end Assay
