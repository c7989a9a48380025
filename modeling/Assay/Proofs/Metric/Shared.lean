import Assay.Metric.Shared
import Assay.Proofs.Shared

/-!
# Matching metric families with shared predicates

Function by function, what matching with shared predicates may come to is what the judge says. Up to
the candidates of one sample there is one outcome, from the samples of a family on one for each
choice among failures.
-/

namespace Assay.Shared

open Assignment Assay.Metric
open Predicate (Work)
open SideBySide (Pick)

variable {engine : Regex.Engine} (env : Environment) (pick : Pick Discrepancy)

/-! ## Samples -/

theorem outcomes_labelEntries (actual : Labels) (es : List (String × String)) :
    (labelEntries actual es).run.outcomes engine =
      [Judge.labelEntries { env, engine, pick } actual es] := by
  induction es with
  | nil => rfl
  | cons e es ih =>
    simp only [labelEntries, Judge.labelEntries, outcomes_run_bind, outcomes_value env pick,
      List.flatMap_singleton, ih, onward_singleton]

theorem outcomes_labels (expected actual : Labels) :
    (labels expected actual).run.outcomes engine =
      [Judge.labels { env, engine, pick } expected actual] := by
  unfold labels Judge.labels
  split
  · rfl
  · exact outcomes_labelEntries env pick actual expected.entries

theorem outcomes_keyedEntries (what : String) (actual : Dictionary String)
    (es : List (String × String)) :
    (keyedEntries what actual es).run.outcomes engine =
      [Judge.keyedEntries { env, engine, pick } what actual es] := by
  induction es with
  | nil => rfl
  | cons e es ih =>
    obtain ⟨key, predicate⟩ := e
    rw [keyedEntries, Judge.keyedEntries]
    cases actual.get? key with
    | none => rfl
    | some v =>
      simp only [outcomes_run_bind, outcomes_value env pick, List.flatMap_singleton, ih,
        onward_singleton]

theorem outcomes_sample (expected actual : Sample) :
    (sample expected actual).run.outcomes engine =
      [Judge.sample { env, engine, pick } expected actual] := by
  cases expected <;> cases actual <;>
    first
    | rfl
    | simp only [sample, Judge.sample, outcomes_run_bind, outcomes_labels env pick,
        outcomes_value env pick, outcomes_keyedEntries env pick, List.flatMap_singleton,
        onward_singleton]

theorem outcomes_trySamples (expected : Sample) (pool : List (Sample × Nat)) :
    (trySamples expected pool).outcomes engine =
      [Judge.trySamples { env, engine, pick } expected pool] := by
  induction pool with
  | nil => rfl
  | cons s pool ih =>
    obtain ⟨s, slot⟩ := s
    simp only [trySamples, Judge.trySamples, Work.outcomes_bind, outcomes_sample env pick, ih,
      List.flatMap_singleton]
    cases Judge.sample { env, engine, pick } expected s <;> rfl

theorem outcomes_sampleCandidates (pool : List Sample) (expected : Sample × Nat) :
    (sampleCandidates pool expected).run.outcomes engine =
      [Judge.sampleCandidates { env, engine, pick } pool expected] := by
  rw [sampleCandidates, Judge.sampleCandidates, outcomes_run_mk, Work.outcomes_bind,
    outcomes_trySamples env pick, List.flatMap_singleton]
  split <;> simp_all

/-! ## Families -/

/-- The choice is which of several unmet samples to tell of. -/
theorem upToPick_family (expected actual : Family) :
    UpToPick engine (family expected actual).run fun pick =>
      Judge.family { env, engine, pick } expected actual := by
  unfold family Judge.family
  refine (UpToPick.forEach (fun pick => outcomes_sampleCandidates env pick actual.samples) _).bind
    fun candidates => .of_outcomes fun pick => ?_
  cases assign candidates actual.samples.length <;> rfl

theorem upToPick_bindFamilies (actual expected : List Family) :
    UpToPick engine (bindFamilies actual expected).run fun pick =>
      Judge.bindFamilies { env, engine, pick } actual expected := by
  induction actual generalizing expected with
  | nil => cases expected <;> exact .of_outcomes fun _ => rfl
  | cons a actual ih =>
    cases expected with
    | nil => exact .of_outcomes fun _ => rfl
    | cons e rest =>
      unfold bindFamilies Judge.bindFamilies
      split
      · exact .of_outcomes fun _ => rfl
      · split
        · exact ((upToPick_family env e a).mapError _).bind fun _ => ih rest
        · exact ih (e :: rest)

/-- The choice is which of several patterns that match to tell of. -/
theorem upToPick_checkAbsent (actual : List Family) (entries : List Judge.Absence) :
    UpToPick engine (checkAbsent actual entries).run fun pick =>
      Judge.checkAbsent { env, engine, pick } actual entries :=
  (UpToPick.forEach (fun _ _ => outcomes_run_lift _) entries).bind
    fun _ => .of_outcomes fun _ => rfl

/-- **Matching families with shared predicates** comes to what the judge says, whatever choice he
makes. -/
theorem upToPick_metrics (expected actual : List Family) :
    UpToPick engine (metrics engine expected actual).run fun pick =>
      Judge.metrics { env, engine, pick } expected actual := by
  unfold metrics Judge.metrics
  split
  · exact .of_outcomes fun _ => rfl
  · refine UpToPick.bind (.of_outcomes fun _ => outcomes_run_lift _) fun entries => ?_
    exact (upToPick_checkAbsent env actual entries).bind fun _ => upToPick_bindFamilies env _ _

end Assay.Shared
