import Assay.Proofs.Trace.FirstFit
import Assay.Proofs.Trace.Pairing

/-!
# What does not count in traces

The declared size of a snapshot, the identifiers that traces and spans give themselves and the logs
of spans are for information. Spans are compared in other fields only, so blanking these changes
neither which spans are admitted nor which traces match.
-/

namespace Assay

/-! ## Blanked data -/

/-- The span without what is for information. -/
def Span.essence (s : Span) : Span :=
  { s with traceId := "", logs := [] }

/-- The trace without what is for information. -/
def Trace.essence (t : Trace) : Trace :=
  { traceId := "", spans := t.spans.map Span.essence }

/-- The snapshot without what is for information. -/
def Snapshot.essence (s : Snapshot) : Snapshot :=
  { size := none, traces := s.traces.map Trace.essence }

namespace Judge

variable {j : Judge}

/-- Spans are compared in what is not for information. -/
theorem admits_essence {expected actual : Span} :
    j.Admits expected.essence actual.essence ↔ j.Admits expected actual :=
  .rfl

theorem matches_essence (expected actual : Trace) :
    j.Matches expected.essence actual.essence ↔ j.Matches expected actual := by
  rw [Matches, Matches, spans_eq_ok_iff, spans_eq_ok_iff]
  simp only [Trace.essence, List.length_map, bindable_map_iff, admits_essence]

/-- **Matching snapshots does not look at what is for information.** -/
theorem snapshot_essence (expected actual : Snapshot) :
    j.snapshot expected.essence actual.essence = .ok () ↔ j.snapshot expected actual = .ok () :=
  traces_map_iff matches_essence

end Judge

end Assay
