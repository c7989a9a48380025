import Assay.Metric.Match
import Assay.Proofs.Fallible

/-!
# What does not count in metric families

Help texts and timestamps are for information. Matching families without them has the very same
outcome, errors included.
-/

namespace Assay

/-! ## Blanked data -/

/-- The sample without its timestamp. -/
def Metric.Sample.essence : Metric.Sample → Metric.Sample
  | .plain s => .plain { s with timestamp := none }
  | .summary s => .summary { s with timestamp := none }
  | .histogram s => .histogram { s with timestamp := none }

/-- The family without its help text and the timestamps. -/
def Metric.Family.essence (f : Metric.Family) : Metric.Family :=
  { f with help := "", samples := f.samples.map Metric.Sample.essence }

@[simp] theorem Metric.Family.name_essence (f : Metric.Family) : f.essence.name = f.name := rfl

@[simp] theorem Metric.Family.kind_essence (f : Metric.Family) : f.essence.kind = f.kind := rfl

theorem Metric.Family.samples_essence (f : Metric.Family) :
    f.essence.samples = f.samples.map Metric.Sample.essence := rfl

namespace Judge

open Assay.Metric

variable (j : Judge)

/-! ## Samples -/

theorem sample_essence (expected actual : Sample) :
    j.sample expected.essence actual.essence = j.sample expected actual := by
  cases expected <;> cases actual <;> rfl

theorem trySamples_essence (expected : Sample) (pool : List (Sample × Nat)) :
    j.trySamples expected.essence (pool.map (Prod.map Sample.essence id)) =
      j.trySamples expected pool := by
  induction pool with
  | nil => rfl
  | cons s pool ih =>
    rw [List.map_cons, Prod.map_apply, trySamples, trySamples, ih, sample_essence]
    rfl

theorem sampleCandidates_essence (pool : List Sample) (expected : Sample × Nat) :
    j.sampleCandidates (pool.map Sample.essence) (expected.map Sample.essence id) =
      j.sampleCandidates pool expected := by
  unfold sampleCandidates
  rw [Prod.map_fst, List.zipIdx_map, trySamples_essence]
  rfl

/-- Which samples are candidates does not depend on what is for information. -/
theorem family_essence (expected actual : Family) :
    j.family expected.essence actual.essence = j.family expected actual := by
  have hcandidates :
      expected.essence.samples.zipIdx.map (j.sampleCandidates actual.essence.samples) =
        expected.samples.zipIdx.map (j.sampleCandidates actual.samples) := by
    rw [Family.samples_essence, Family.samples_essence, List.zipIdx_map, List.map_map]
    exact List.map_congr_left fun e _ => j.sampleCandidates_essence actual.samples e
  unfold family
  rw [hcandidates, Family.samples_essence actual, List.length_map]

/-! ## Families -/

theorem bindFamilies_essence (actual expected : List Family) :
    j.bindFamilies (actual.map Family.essence) (expected.map Family.essence) =
      j.bindFamilies actual expected := by
  fun_induction bindFamilies j actual expected with
  | case1 => rw [List.map_nil, bindFamilies]
  | case2 e rest => rfl
  | case3 a actual e rest hgt => exact if_pos hgt
  | case4 a actual e rest hgt heq ih =>
    rw [List.map_cons, List.map_cons, bindFamilies, Family.name_essence, Family.name_essence,
      Family.kind_essence, Family.kind_essence, if_neg hgt, if_pos heq, family_essence, ih]
  | case5 a actual e rest hgt hne ih =>
    rw [List.map_cons, List.map_cons, bindFamilies, Family.name_essence, Family.name_essence,
      Family.kind_essence, Family.kind_essence, if_neg hgt, if_neg hne]
    exact ih

theorem absences_essence (engine : Regex.Engine) (expected : List Family) :
    absences engine (expected.map Family.essence) = absences engine expected := by
  induction expected with
  | nil => rfl
  | cons f expected ih =>
    rw [List.map_cons, absences, absences, ih]
    rfl

theorem checkAbsent_essence (actual : List Family) (entries : List Absence) :
    j.checkAbsent (actual.map Family.essence) entries = j.checkAbsent actual entries := by
  have hentry : ∀ entry, absent (actual.map Family.essence) entry = absent actual entry := by
    intro entry
    have hfound : (actual.map Family.essence).find? (fun f => entry.2 f.name) =
        (actual.find? fun f => entry.2 f.name).map Family.essence :=
      List.find?_map
    rw [absent, absent, hfound]
    cases actual.find? fun f => entry.2 f.name <;> rfl
  rw [checkAbsent, checkAbsent, funext hentry]

theorem byName_essence (families : List Family) :
    byName (families.map Family.essence) = (byName families).map Family.essence := by
  refine (List.map_mergeSort ?_).symm
  exact fun a _ b _ => rfl

/-- **Matching families does not look at what is for information.** -/
theorem metrics_essence (expected actual : List Family) :
    j.metrics (expected.map Family.essence) (actual.map Family.essence) =
      j.metrics expected actual := by
  have hpresent : (expected.map Family.essence).filter (fun f => (absencePattern? f).isNone) =
      (expected.filter fun f => (absencePattern? f).isNone).map Family.essence := by
    rw [List.filter_map]
    rfl
  unfold metrics
  simp only [List.isEmpty_map, absences_essence, checkAbsent_essence, hpresent, byName_essence,
    bindFamilies_essence]

end Judge

end Assay
