import Assay.Proofs.Metric.Samples

/-!
# Samples with more than is expected

What an expected sample says can be told from look-ups alone: under each of its labels, where a
missing one counts as empty, and under each of its quantiles or buckets, which must be there. So
whatever an actual sample has under other keys does no harm.
-/

namespace Assay

open Assay.Metric

namespace Metric.Sample

/-- The single values of a sample. -/
def totals : Sample → List String
  | .plain s => [s.value]
  | .summary s => [s.count, s.sum]
  | .histogram s => [s.count, s.sum]

/-- The quantiles or buckets of a sample. -/
def keyed : Sample → Dictionary String
  | .plain _ => ∅
  | .summary s => s.quantiles
  | .histogram s => s.buckets

/-- The sample with further labels, and with further quantiles or buckets if it is of a shape that
has some. -/
def enlarge (labels entries : List (String × String)) : Sample → Sample
  | .plain s => .plain { s with labels := s.labels.insertAll labels }
  | .summary s =>
    .summary { s with
      labels := s.labels.insertAll labels
      quantiles := s.quantiles.insertAll entries }
  | .histogram s =>
    .histogram { s with
      labels := s.labels.insertAll labels
      buckets := s.buckets.insertAll entries }

variable (labels entries : List (String × String)) (s : Sample)

theorem shape_enlarge : (s.enlarge labels entries).shape = s.shape := by
  cases s <;> rfl

theorem totals_enlarge : (s.enlarge labels entries).totals = s.totals := by
  cases s <;> rfl

theorem labels_enlarge : (s.enlarge labels entries).labels = s.labels.insertAll labels := by
  cases s <;> rfl

theorem get?_keyed_enlarge {key : String} (h : ∀ e ∈ entries, e.1 ≠ key) :
    (s.enlarge labels entries).keyed.get? key = s.keyed.get? key := by
  cases s with
  | plain s => rfl
  | summary s => exact Dictionary.get?_insertAll_of_forall_ne h s.quantiles
  | histogram s => exact Dictionary.get?_insertAll_of_forall_ne h s.buckets

end Metric.Sample

namespace Judge

variable {j : Judge} {expected actual : Sample}

/-- What an expected sample says of an actual one, told by look-ups. -/
structure SampleMeets (j : Judge) (expected actual : Sample) : Prop where
  shape : expected.shape = actual.shape
  labelCount : expected.labels.size ≤ actual.labels.size
  /-- A label that is missing counts as empty. -/
  labels : ∀ name predicate, expected.labels.get? name = some predicate →
    j.accepts predicate ((actual.labels.get? name).getD "") = true
  totals : List.Forall₂ (fun predicate value => j.accepts predicate value = true)
    expected.totals actual.totals
  /-- A quantile or bucket that is missing is not made up for. -/
  keyed : ∀ key predicate, expected.keyed.get? key = some predicate →
    ∃ value, actual.keyed.get? key = some value ∧ j.accepts predicate value = true

theorem labelsHold_iff {expected actual : Labels} :
    j.LabelsHold expected actual ↔ expected.size ≤ actual.size ∧
      ∀ name predicate, expected.get? name = some predicate →
        j.accepts predicate ((actual.get? name).getD "") = true := by
  rw [← expected.forall_mem_entries_iff]
  exact ⟨fun h => ⟨h.size, h.entries⟩, fun h => ⟨h.1, h.2⟩⟩

theorem entriesHold_iff {expected actual : Dictionary String} :
    (∀ e ∈ expected.entries, j.EntryHolds actual e.1 e.2) ↔
      ∀ key predicate, expected.get? key = some predicate →
        ∃ value, actual.get? key = some value ∧ j.accepts predicate value = true :=
  expected.forall_mem_entries_iff

theorem sampleHolds_iff : j.SampleHolds expected actual ↔ j.SampleMeets expected actual := by
  constructor
  · intro h
    cases h with
    | plain hlabels hvalue =>
      obtain ⟨hcount, hlabels⟩ := labelsHold_iff.mp hlabels
      exact ⟨rfl, hcount, hlabels, .cons hvalue .nil, fun key predicate h => by cases h⟩
    | summary hlabels hcount hsum hkeyed | histogram hlabels hcount hsum hkeyed =>
      obtain ⟨hlabelCount, hlabels⟩ := labelsHold_iff.mp hlabels
      exact ⟨rfl, hlabelCount, hlabels, .cons hcount (.cons hsum .nil), entriesHold_iff.mp hkeyed⟩
  · rintro ⟨hshape, hcount, hlabels, htotals, hkeyed⟩
    have hlabels := labelsHold_iff.mpr ⟨hcount, hlabels⟩
    cases expected <;> cases actual <;> simp only [Sample.shape] at hshape <;>
      first | (exact absurd hshape (by decide)) | skip
    case plain =>
      obtain _ | ⟨hvalue, -⟩ := htotals
      exact .plain hlabels hvalue
    case summary =>
      obtain _ | ⟨hcount, _ | ⟨hsum, -⟩⟩ := htotals
      exact .summary hlabels hcount hsum (entriesHold_iff.mpr hkeyed)
    case histogram =>
      obtain _ | ⟨hcount, _ | ⟨hsum, -⟩⟩ := htotals
      exact .histogram hlabels hcount hsum (entriesHold_iff.mpr hkeyed)

/-! ## More on the actual side -/

variable {labels entries : List (String × String)}

/-- No entry stands under a key of the dictionary. -/
def Unmentioned (d : Dictionary String) (es : List (String × String)) : Prop :=
  ∀ e ∈ es, d.contains e.1 = false

instance (d : Dictionary String) (es : List (String × String)) : Decidable (Unmentioned d es) :=
  inferInstanceAs (Decidable (∀ e ∈ es, d.contains e.1 = false))

theorem Unmentioned.ne {d : Dictionary String} {es : List (String × String)}
    {key predicate : String} (h : Unmentioned d es) (hkey : d.get? key = some predicate) :
    ∀ e ∈ es, e.1 ≠ key := by
  rintro e he rfl
  have hcontains := Dictionary.contains_of_get? hkey
  rw [h e he] at hcontains
  cases hcontains

theorem SampleMeets.enlarge (h : j.SampleMeets expected actual)
    (hlabels : Unmentioned expected.labels labels) (hentries : Unmentioned expected.keyed entries) :
    j.SampleMeets expected (actual.enlarge labels entries) where
  shape := h.shape.trans (actual.shape_enlarge labels entries).symm
  labelCount := by
    rw [Sample.labels_enlarge]
    exact h.labelCount.trans (Dictionary.size_le_insertAll _ labels)
  labels name predicate hname := by
    rw [Sample.labels_enlarge, Dictionary.get?_insertAll_of_forall_ne (hlabels.ne hname)]
    exact h.labels name predicate hname
  totals := by
    rw [Sample.totals_enlarge]
    exact h.totals
  keyed key predicate hkey := by
    rw [Sample.get?_keyed_enlarge labels entries actual (hentries.ne hkey)]
    exact h.keyed key predicate hkey

/-- **A sample is accepted for what is expected of it, and for nothing else.** It must have the
expected shape and at least as many labels; its labels, where a missing one counts as empty, its
single values, and its quantiles or buckets, each of which must be there, must satisfy the expected
predicates. So further labels, quantiles and buckets under keys that are not expected never turn
success into failure. -/
theorem sample_tolerates_surplus (j : Judge) :
    (∀ expected actual, j.sample expected actual = .ok () ↔ j.SampleMeets expected actual) ∧
    (∀ expected actual labels entries, j.sample expected actual = .ok () →
      Unmentioned expected.labels labels → Unmentioned expected.keyed entries →
      j.sample expected (actual.enlarge labels entries) = .ok ()) := by
  have hmeets : ∀ expected actual, j.sample expected actual = .ok () ↔
      j.SampleMeets expected actual :=
    fun expected actual => sample_eq_ok_iff.trans sampleHolds_iff
  refine ⟨hmeets, fun expected actual labels entries hok hlabels hentries => ?_⟩
  rw [hmeets] at hok ⊢
  exact hok.enlarge hlabels hentries

/-- A histogram of which one bucket is expected, and a label that must not be set. -/
def expectedHistogram : Sample :=
  .histogram { labels := .ofList [("code", "empty"), ("path", "/users")], count := "ge 1",
               buckets := .ofList [("0.5", "gt 0")] }

/-- A histogram without that label, but with one more. -/
def recordedHistogram : Sample :=
  .histogram { labels := .ofList [("method", "GET"), ("path", "/users")],
               count := "3", sum := "1.2",
               buckets := .ofList [("0.5", "2"), ("1", "3")] }

/-- A bucket is replaced and another one added, and so is a label. -/
theorem sample_tolerates_surplus_histogram :
    sample { env := fun _ => none } expectedHistogram recordedHistogram = .ok () ∧
    Unmentioned expectedHistogram.labels [("method", "PUT"), ("host", "a")] ∧
    Unmentioned expectedHistogram.keyed [("1", "2"), ("+Inf", "3")] ∧
    sample { env := fun _ => none } expectedHistogram
      (recordedHistogram.enlarge [("method", "PUT"), ("host", "a")] [("1", "2"), ("+Inf", "3")]) =
        .ok () := by
  have hok : sample { env := fun _ => none } expectedHistogram recordedHistogram = .ok () := by
    decide +kernel
  have hlabels : Unmentioned expectedHistogram.labels [("method", "PUT"), ("host", "a")] := by
    decide +kernel
  have hentries : Unmentioned expectedHistogram.keyed [("1", "2"), ("+Inf", "3")] := by
    decide +kernel
  exact ⟨hok, hlabels, hentries,
    (sample_tolerates_surplus _).2 _ _ _ _ hok hlabels hentries⟩

end Judge

end Assay
