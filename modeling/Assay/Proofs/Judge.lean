import Assay.Judge
import Assay.Proofs.Dictionary
import Assay.Proofs.Fallible
import Assay.Proofs.Predicate.Reading

/-!
# Judging single texts

A comparison of two texts succeeds exactly if the predicate accepts the actual one. Where predicates
are applied as they are read, a literal text accepts itself and an ill-formed predicate accepts
nothing.
-/

namespace Assay

namespace Judge

variable {j : Judge}

theorem field_eq_ok_iff {name expected actual : String} :
    j.field name expected actual = .ok () ↔ j.accepts expected actual = true := by
  unfold field accepts
  cases j.check expected actual <;> simp [Except.mapError]

theorem value_eq_ok_iff {name expected actual : String} :
    j.value name expected actual = .ok () ↔ j.accepts expected actual = true := by
  rw [value, mapError_eq_ok_iff, field_eq_ok_iff]

/-- An expected entry is there, and its predicate accepts the actual value. -/
def EntryHolds (j : Judge) (actual : Dictionary String) (key predicate : String) : Prop :=
  ∃ v, actual.get? key = some v ∧ j.accepts predicate v = true

/-- An entry whose value is accepted is found where it stands. -/
theorem entryHolds_of_mem {actual : Dictionary String} {e : String × String} {predicate : String}
    (he : e ∈ actual.entries) (h : j.accepts predicate e.2 = true) :
    j.EntryHolds actual e.1 predicate :=
  ⟨e.2, (actual.mem_entries_iff e).mp he, h⟩

/-! ## Predicates applied as they are read -/

variable {env : Environment} {engine : Regex.Engine} {pick : SideBySide.Pick Discrepancy}

theorem accepts_self {s : String} (h : Predicate.IsLiteral s) :
    accepts { env, engine, pick } s s = true := by
  simp only [accepts, h.check_self]

theorem accepts_illFormed {text : String} (h : Predicate.IllFormed engine (Predicate.parse text))
    (actual : String) : accepts { env, engine, pick } text actual = false := by
  obtain ⟨e, -, he⟩ := h.check
  simp only [accepts, he]

/-! ## Judges that choose otherwise -/

/-- The judge that chooses in another way among failures. -/
def picking (j : Judge) (pick : SideBySide.Pick Discrepancy) : Judge :=
  { j with pick }

@[simp] theorem pick_picking (j : Judge) (pick : SideBySide.Pick Discrepancy) :
    (j.picking pick).pick = pick := rfl

end Judge

end Assay
