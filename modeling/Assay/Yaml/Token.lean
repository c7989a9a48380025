/-!
# YAML tokens

The scanner cuts a text into these tokens. Indentation shows in them as the starts and ends of
block collections, so the grammar behind it need not look at columns.
-/

namespace Assay.Yaml

/-- How a scalar is written. -/
inductive Style where
  | plain
  | singleQuoted
  | doubleQuoted
  | literal
  | folded
  deriving DecidableEq, Repr, Inhabited

/-- A tag as written: a handle and a suffix. The handle is empty where the suffix is all of it. -/
structure TagText where
  handle : String
  suffix : String
  deriving DecidableEq, Repr, Inhabited

/-- A token. -/
inductive Token where
  | version (major minor : Nat)
  | tagHandle (handle replacement : String)
  | documentStart
  | documentEnd
  | streamEnd
  | blockListStart
  | blockTableStart
  | blockEnd
  | flowListStart
  | flowListEnd
  | flowTableStart
  | flowTableEnd
  | blockEntry
  | flowEntry
  | key
  | value
  | alias (name : String)
  | anchor (name : String)
  | tag (written : TagText)
  | scalar (style : Style) (text : String)
  deriving DecidableEq, Repr, Inhabited

end Assay.Yaml
