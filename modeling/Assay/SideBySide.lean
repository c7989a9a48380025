/-!
# Steps made side by side

Steps that are made side by side may fail at the same time. They come to all of their values if none
of them fails, and otherwise to one of their failures. Which failure that is depends on nothing that
is modelled, so it is left open: a `Pick` settles it.
-/

namespace Assay.SideBySide

variable {ε α : Type}

/-- The values among results, in their order. -/
def values (results : List (Except ε α)) : List α :=
  results.filterMap Except.toOption

/-- The failures among results, in their order. -/
def failures (results : List (Except ε α)) : List ε :=
  results.filterMap fun
    | .ok _ => none
    | .error e => some e

/-- A way to choose one of several failures. -/
def Pick (ε : Type) : Type :=
  (first : ε) → (others : List ε) → { e : ε // e ∈ first :: others }

/-- The choice of the first failure, as if the steps were made one after the other. -/
def Pick.first : Pick ε :=
  fun e _ => ⟨e, List.mem_cons_self⟩

/-- What steps come to together, given what each of them comes to. -/
def Pick.settle (pick : Pick ε) (results : List (Except ε α)) : Except ε (List α) :=
  match failures results with
  | [] => .ok (values results)
  | e :: es => .error (pick e es)

end Assay.SideBySide
