import Assay.Proofs.Judge
import Assay.Proofs.Metric.Pairing

/-!
# Samples of a family

An actual sample satisfies an expected one if it has its shape and each predicate accepts the text
that stands in its place. Two families match exactly if every expected sample can be given an
actual one of its own that satisfies it.
-/

namespace Assay

open Assay.Metric

/-- The texts of a sample that are compared. -/
def Metric.Sample.texts : Sample → List String
  | .plain s => s.value :: s.labels.entries.map Prod.snd
  | .summary s => s.count :: s.sum :: (s.labels.entries ++ s.quantiles.entries).map Prod.snd
  | .histogram s => s.count :: s.sum :: (s.labels.entries ++ s.buckets.entries).map Prod.snd

namespace Judge

variable {j : Judge}

/-! ## Labels, quantiles and buckets -/

theorem labelEntries_eq_ok_iff {actual : Labels} {es : List (String × String)} :
    j.labelEntries actual es = .ok () ↔
      ∀ e ∈ es, j.accepts e.2 ((actual.get? e.1).getD "") = true := by
  induction es with
  | nil => simp [labelEntries]
  | cons e es ih =>
    simp only [labelEntries, bind_unit_eq_ok_iff, value_eq_ok_iff, List.forall_mem_cons, ih]

/-- There are enough labels, and all predicates accept; a label that is missing counts as empty. -/
structure LabelsHold (j : Judge) (expected actual : Labels) : Prop where
  size : expected.size ≤ actual.size
  entries : ∀ e ∈ expected.entries, j.accepts e.2 ((actual.get? e.1).getD "") = true

theorem labels_eq_ok_iff {expected actual : Labels} :
    j.labels expected actual = .ok () ↔ j.LabelsHold expected actual := by
  unfold labels
  split
  · rename_i hsize
    exact iff_of_false (by simp) fun h => Nat.not_le_of_lt hsize h.size
  · rename_i hsize
    rw [labelEntries_eq_ok_iff]
    exact ⟨fun h => ⟨Nat.le_of_not_lt hsize, h⟩, fun h => h.entries⟩

theorem keyedEntries_eq_ok_iff {what : String} {actual : Dictionary String}
    {es : List (String × String)} :
    j.keyedEntries what actual es = .ok () ↔ ∀ e ∈ es, j.EntryHolds actual e.1 e.2 := by
  induction es with
  | nil => simp [keyedEntries]
  | cons e es ih =>
    obtain ⟨key, predicate⟩ := e
    rw [List.forall_mem_cons, ← ih, keyedEntries, EntryHolds]
    cases hv : actual.get? key with
    | none => simp
    | some v => simp [bind_unit_eq_ok_iff, value_eq_ok_iff]

/-! ## Single samples -/

/-- What an expected sample says holds of an actual one, which must be of its shape. -/
inductive SampleHolds (j : Judge) : Sample → Sample → Prop where
  | plain {e a : Plain} (hlabels : j.LabelsHold e.labels a.labels)
      (hvalue : j.accepts e.value a.value = true) : SampleHolds j (.plain e) (.plain a)
  | summary {e a : Summary} (hlabels : j.LabelsHold e.labels a.labels)
      (hcount : j.accepts e.count a.count = true) (hsum : j.accepts e.sum a.sum = true)
      (hquantiles : ∀ q ∈ e.quantiles.entries, j.EntryHolds a.quantiles q.1 q.2) :
      SampleHolds j (.summary e) (.summary a)
  | histogram {e a : Histogram} (hlabels : j.LabelsHold e.labels a.labels)
      (hcount : j.accepts e.count a.count = true) (hsum : j.accepts e.sum a.sum = true)
      (hbuckets : ∀ b ∈ e.buckets.entries, j.EntryHolds a.buckets b.1 b.2) :
      SampleHolds j (.histogram e) (.histogram a)

/-- **A sample is accepted exactly if all that is said of it holds.** -/
theorem sample_eq_ok_iff {expected actual : Sample} :
    j.sample expected actual = .ok () ↔ j.SampleHolds expected actual := by
  constructor
  · intro h
    unfold sample at h
    split at h
    · simp only [bind_unit_eq_ok_iff, labels_eq_ok_iff, value_eq_ok_iff] at h
      exact .plain h.1 h.2
    · simp only [bind_unit_eq_ok_iff, labels_eq_ok_iff, value_eq_ok_iff,
        keyedEntries_eq_ok_iff] at h
      exact .summary h.1 h.2.1 h.2.2.1 h.2.2.2
    · simp only [bind_unit_eq_ok_iff, labels_eq_ok_iff, value_eq_ok_iff,
        keyedEntries_eq_ok_iff] at h
      exact .histogram h.1 h.2.1 h.2.2.1 h.2.2.2
    · cases h
  · intro h
    cases h with
    | plain hlabels hvalue =>
      simp only [sample, bind_unit_eq_ok_iff, labels_eq_ok_iff, value_eq_ok_iff]
      exact ⟨hlabels, hvalue⟩
    | summary hlabels hcount hsum hquantiles =>
      simp only [sample, bind_unit_eq_ok_iff, labels_eq_ok_iff, value_eq_ok_iff,
        keyedEntries_eq_ok_iff]
      exact ⟨hlabels, hcount, hsum, hquantiles⟩
    | histogram hlabels hcount hsum hbuckets =>
      simp only [sample, bind_unit_eq_ok_iff, labels_eq_ok_iff, value_eq_ok_iff,
        keyedEntries_eq_ok_iff]
      exact ⟨hlabels, hcount, hsum, hbuckets⟩

/-- Every predicate of a sample that is satisfied has accepted some text. -/
theorem SampleHolds.accepts {expected actual : Sample} (h : j.SampleHolds expected actual) :
    ∀ text ∈ expected.texts, ∃ v, j.accepts text v = true := by
  intro text htext
  cases h with
  | plain hlabels hvalue =>
    simp only [Sample.texts, List.mem_cons, List.mem_map] at htext
    rcases htext with rfl | ⟨e, he, rfl⟩
    · exact ⟨_, hvalue⟩
    · exact ⟨_, hlabels.entries e he⟩
  | summary hlabels hcount hsum hentries | histogram hlabels hcount hsum hentries =>
    simp only [Sample.texts, List.mem_cons, List.mem_map, List.mem_append] at htext
    rcases htext with rfl | rfl | ⟨e, he | he, rfl⟩
    · exact ⟨_, hcount⟩
    · exact ⟨_, hsum⟩
    · exact ⟨_, hlabels.entries e he⟩
    · obtain ⟨v, -, hv⟩ := hentries e he
      exact ⟨v, hv⟩

/-! ## The samples of two families -/

/-- **Two families match exactly if the expected samples can be bound** to actual ones of which all
that is said of them holds. -/
theorem family_eq_ok_iff {expected actual : Family} :
    j.family expected actual = .ok () ↔
      Bindable j.SampleHolds expected.samples actual.samples := by
  have hsame : j.Suits = j.SampleHolds := funext₂ fun _ _ => propext sample_eq_ok_iff
  rw [family_eq_ok_iff_bindable, hsame]

end Judge

end Assay
