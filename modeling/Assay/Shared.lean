import Assay.Discrepancy
import Assay.Predicate.Sharing

/-!
# Judging single values with shared predicates

The comparisons of a judge, made as work that takes its predicates from a cache. Each call to the
cache stands where the comparison makes it.
-/

namespace Assay.Shared

open Predicate (Work)

/-- Whether an actual text satisfies a predicate. -/
def accepts (expected actual : String) : Work Bool := do
  match ← Work.evaluate expected actual with
  | .ok _ => return true
  | .error _ => return false

/-- Compares a field that has a name. -/
def field (name expected actual : String) : ExceptT FieldError Work Unit :=
  .mk do return (← Work.evaluate expected actual).mapError fun cause => ⟨name, cause⟩

/-- Compares a field that has a name. -/
def value (name expected actual : String) : ExceptT Discrepancy Work Unit :=
  .mk do return (← (field name expected actual).run).mapError .field

/-- Makes the comparisons for the elements of a list side by side. One that fails puts an end to
all of them, wherever they stand. -/
def forEach {ε α β : Type} (f : α → ExceptT ε Work β) (as : List α) : ExceptT ε Work (List β) :=
  .mk (Work.inParallel (fun a => (f a).run) as)

end Assay.Shared
