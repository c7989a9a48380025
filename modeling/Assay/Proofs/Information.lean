import Assay.Proofs.Metric.Information
import Assay.Proofs.Trace.Information

/-!
# Information never decides

Two comparisons of the same data, apart from what is carried for information, have one verdict: both
have that of the data without it.
-/

namespace Assay.Judge

open Assay.Metric

/-- **What is carried for information never decides.** On both sides the declared size of a
snapshot, the identifiers of traces, also those in spans, and the logs may be anything, and so may
the help texts of families and the timestamps of samples: whether the expectation is met stays the
same. -/
theorem information_never_decides (j : Judge) :
    (∀ expected expected' actual actual' : Snapshot,
      expected.essence = expected'.essence → actual.essence = actual'.essence →
      (j.snapshot expected actual = .ok () ↔ j.snapshot expected' actual' = .ok ())) ∧
    ∀ expected expected' actual actual' : List Family,
      expected.map Family.essence = expected'.map Family.essence →
      actual.map Family.essence = actual'.map Family.essence →
      (j.metrics expected actual = .ok () ↔ j.metrics expected' actual' = .ok ()) := by
  constructor
  · intro expected expected' actual actual' hexpected hactual
    rw [← snapshot_essence, hexpected, hactual, snapshot_essence]
  · intro expected expected' actual actual' hexpected hactual
    rw [← metrics_essence, hexpected, hactual, metrics_essence]

/-- Traces with one span each, for the identifiers of traces, the logs and the size given. -/
def captured (ids : List String) (logs : List Json) (size : Option Nat) : Snapshot :=
  { size
    traces := ids.map fun id => {
      traceId := id
      spans := [{ traceId := id, spanId := "7", operationName := "get", logs }] } }

/-- A gauge with one sample, for the help text and the timestamp given. -/
def gauge (help : String) (timestamp : Option String) (value : String) : Family :=
  { name := "up", help, kind := .gauge, samples := [.plain { timestamp, value }] }

/-- Expected traces of one identifier find actual ones of one identifier, and so they do when some
identifiers are missing, others differ, logs and a size are added, and likewise for families with
other help texts and timestamps. -/
theorem information_never_decides_repeated :
    (captured ["a", "a"] [] (some 2)).essence = (captured ["a", ""] [.null] none).essence ∧
    (captured ["b", "b"] [] none).essence = (captured ["", "c"] [.null] (some 9)).essence ∧
    snapshot { env := fun _ => none } (captured ["a", "a"] [] (some 2))
      (captured ["b", "b"] [] none) = .ok () ∧
    snapshot { env := fun _ => none } (captured ["a", ""] [.null] none)
      (captured ["", "c"] [.null] (some 9)) = .ok () ∧
    [gauge "Up." (some "5") "ge 1"].map Family.essence = [gauge "" none "ge 1"].map Family.essence ∧
    [gauge "" none "2"].map Family.essence = [gauge "Up." (some "7") "2"].map Family.essence ∧
    metrics { env := fun _ => none } [gauge "Up." (some "5") "ge 1"] [gauge "" none "2"] = .ok () ∧
    metrics { env := fun _ => none } [gauge "" none "ge 1"] [gauge "Up." (some "7") "2"] =
      .ok () := by
  obtain ⟨hsnapshot, hmetrics⟩ := information_never_decides { env := fun _ => none }
  have hmet : snapshot { env := fun _ => none } (captured ["a", "a"] [] (some 2))
      (captured ["b", "b"] [] none) = .ok () := by decide +kernel
  have hmet' : metrics { env := fun _ => none } [gauge "Up." (some "5") "ge 1"]
      [gauge "" none "2"] = .ok () := by decide +kernel
  have hexpected : [gauge "Up." (some "5") "ge 1"].map Family.essence =
      [gauge "" none "ge 1"].map Family.essence := rfl
  have hactual : [gauge "" none "2"].map Family.essence =
      [gauge "Up." (some "7") "2"].map Family.essence := rfl
  exact ⟨rfl, rfl, hmet, (hsnapshot _ _ _ _ rfl rfl).mp hmet, hexpected, hactual, hmet',
    (hmetrics _ _ _ _ hexpected hactual).mp hmet'⟩

end Assay.Judge
