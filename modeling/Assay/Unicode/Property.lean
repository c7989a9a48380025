import Assay.Unicode.CodeSet
import Assay.Unicode.Table.Category
import Assay.Unicode.Table.Script
import Assay.Unicode.Table.Binary

/-!
# Properties by name

A property is looked up under a loose name: case, spaces, hyphens and underscores do not count, nor
does an `is` right at the front. A name without a property in front is a binary property, a general
category or a script, in this order. Of the properties with values, general category and script are
known.
-/

namespace Assay.Unicode

/-- The characters of a name that count, in lower case. -/
def significant (name : List Char) : List Char :=
  let dropped (c : Char) : Bool := c = ' ' || c = '_' || c = '-' || 127 < c.toNat
  (name.filter fun c => !dropped c).map Char.toLower

/-- What follows a leading `is`, in any case. -/
def afterIs? : List Char → Option (List Char)
  | i :: s :: rest => if i.toLower = 'i' ∧ s.toLower = 's' then some rest else none
  | _ => none

/-- The loose form of a name. The one name that begins with `is` itself keeps it. -/
def looseName (name : List Char) : String :=
  match afterIs? name with
  | none => String.ofList (significant name)
  | some rest => if significant rest = ['c'] then "isc" else String.ofList (significant rest)

/-- The set under a loose name in a table. -/
def lookUp (table : List (List String × String)) (name : String) : Option CodeSet :=
  (table.find? fun entry => entry.1.contains name).map fun entry => CodeSet.ofRuns entry.2

/-- General categories that comprise several basic ones. -/
def categoryGroups : List (List String × List String) := [
  (["c", "other"], ["cc", "cf", "cn", "co", "cs"]),
  (["l", "letter"], ["lu", "ll", "lt", "lm", "lo"]),
  (["lc", "casedletter"], ["lu", "ll", "lt"]),
  (["m", "mark", "combiningmark"], ["mc", "me", "mn"]),
  (["n", "number"], ["nd", "nl", "no"]),
  (["p", "punctuation", "punct"], ["pc", "pd", "pe", "pf", "pi", "po", "ps"]),
  (["s", "symbol"], ["sc", "sk", "sm", "so"]),
  (["z", "separator"], ["zl", "zp", "zs"])]

/-- The union of a list of sets. -/
def unionOf (sets : List CodeSet) : CodeSet :=
  CodeSet.ofRanges (sets.flatMap CodeSet.ranges)

/-- A general category, or one of the sets of all, all assigned and all ASCII code points. -/
def category? (name : String) : Option CodeSet :=
  match name with
  | "any" => some (.upTo lastCode)
  | "ascii" => some (.upTo 127)
  | "assigned" => (lookUp Table.categories "cn").map (CodeSet.complement lastCode)
  | _ =>
    match categoryGroups.find? fun g => g.1.contains name with
    | some (_, parts) => some (unionOf (parts.filterMap (lookUp Table.categories)))
    | none => lookUp Table.categories name

/-- A script. -/
def script? (name : String) : Option CodeSet :=
  lookUp Table.scripts name

/-- A binary property. -/
def binary? (name : String) : Option CodeSet :=
  lookUp Table.binary name

/-- The set that a single name stands for. The short names `cf`, `sc` and `lc` are categories. -/
def property? (name : List Char) : Option CodeSet :=
  let name := looseName name
  let flag := if name = "cf" ∨ name = "sc" ∨ name = "lc" then none else binary? name
  flag <|> category? name <|> script? name

/-- The set that a value of a named property stands for. -/
def valued? (property value : List Char) : Option CodeSet :=
  let value := looseName value
  match looseName property with
  | "gc" | "generalcategory" | "category" => category? value
  | "sc" | "script" => script? value
  | _ => none

/-- Letters and what counts as one. -/
def alphabetic : CodeSet := (binary? "alpha").getD .empty

/-- Numbers of all kinds. -/
def numeric : CodeSet := (category? "n").getD .empty

/-- Decimal digits of all scripts. -/
def decimalDigit : CodeSet := (category? "nd").getD .empty

/-- Blanks. -/
def whiteSpace : CodeSet := (binary? "wspace").getD .empty

/-- What words consist of: letters, marks, digits, connectors and joiners. -/
def wordCharacter : CodeSet :=
  unionOf ([binary? "alpha", category? "m", category? "nd", category? "pc",
    binary? "joinc"].filterMap id)

end Assay.Unicode
