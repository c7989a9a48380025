import Assay.Discrepancy
import Assay.Environment
import Assay.SideBySide

/-!
# Judging single values

A judge applies predicates and knows the environment. How predicates are applied may be exchanged,
for instance for a way that shares prepared predicates, and so may the engine for regular
expressions. Where comparisons are made side by side and several of them fail, the judge picks the
one to be told of.
-/

namespace Assay

/-- How single values are judged. -/
structure Judge where
  env : Environment
  /-- Reads regular expressions. -/
  engine : Regex.Engine := .standard
  /-- Applies the predicate that the first text stands for to the second text. -/
  check : String → String → Except Predicate.Error Unit := Predicate.check engine
  /-- Chooses among the failures of comparisons that are made side by side. -/
  pick : SideBySide.Pick Discrepancy := .first

namespace Judge

/-- Whether an actual text satisfies a predicate. -/
def accepts (j : Judge) (expected actual : String) : Bool :=
  match j.check expected actual with
  | .ok _ => true
  | .error _ => false

/-- Compares a field that has a name. -/
def field (j : Judge) (name expected actual : String) : Except FieldError Unit :=
  (j.check expected actual).mapError fun cause => ⟨name, cause⟩

/-- Compares a field that has a name. -/
def value (j : Judge) (name expected actual : String) : Except Discrepancy Unit :=
  (j.field name expected actual).mapError .field

end Judge

end Assay
