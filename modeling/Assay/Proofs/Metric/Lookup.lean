import Assay.Proofs.Metric.Merge
import Assay.Proofs.SideBySide

/-!
# Looking up families by name

A comparison of families succeeds no more often than a look-up of each expected family would: there
must be something to expect, the patterns must forbid none of the actual names, and every other
expected family must be met by an actual one of its own. If no two actual families share their name
it succeeds exactly then, and a failure is told of the first expected family, by name, that is not
met.
-/

namespace Assay

open Assay.Metric

namespace Judge

variable {j : Judge} {actual expected : List Family}

/-! ## Order by name -/

/-- A list that has been put in order of names. Families of one name keep their order. -/
structure InNameOrder (families sorted : List Family) : Prop where
  perm : sorted.Perm families
  ascending : Ascending sorted
  stable : ∀ name, sorted.filter (·.name = name) = families.filter (·.name = name)

theorem isLE_compare_name (a b : Family) :
    (compare a.name b.name).isLE = true ↔ a.name ≤ b.name :=
  Ordering.isLE_iff_ne_gt.trans compare_le_iff_le

theorem isLE_name_trans (a b c : Family) (hab : (compare a.name b.name).isLE = true)
    (hbc : (compare b.name c.name).isLE = true) : (compare a.name c.name).isLE = true := by
  rw [isLE_compare_name] at hab hbc ⊢
  exact le_trans hab hbc

theorem isLE_name_total (a b : Family) :
    ((compare a.name b.name).isLE || (compare b.name a.name).isLE) = true := by
  rw [Bool.or_eq_true, isLE_compare_name, isLE_compare_name]
  exact le_total _ _

/-- What stands in order of names already is kept in its order. -/
theorem sublist_byName {part families : List Family} (hpart : Ascending part)
    (h : part.Sublist families) : part.Sublist (byName families) :=
  List.sublist_mergeSort isLE_name_trans isLE_name_total
    (hpart.imp fun hle => (isLE_compare_name _ _).mpr hle) h

theorem byName_perm (families : List Family) : (byName families).Perm families :=
  List.mergeSort_perm _ _

theorem ascending_byName (families : List Family) : Ascending (byName families) :=
  (List.pairwise_mergeSort isLE_name_trans isLE_name_total families).imp
    fun hle => (isLE_compare_name _ _).mp hle

theorem Ascending.byName_eq {families : List Family} (h : Ascending families) :
    byName families = families :=
  ((sublist_byName h (.refl _)).eq_of_length (byName_perm families).length_eq.symm).symm

theorem byName_inNameOrder (families : List Family) : InNameOrder families (byName families) where
  perm := byName_perm families
  ascending := ascending_byName families
  stable name := by
    have hone : Ascending (families.filter (·.name = name)) := by
      refine List.pairwise_of_forall_mem_list fun a ha b hb => ?_
      simp only [List.mem_filter, decide_eq_true_eq] at ha hb
      rw [ha.2, hb.2]
    have hsub := (sublist_byName hone List.filter_sublist).filter (·.name = name)
    have htwice : (families.filter (·.name = name)).filter (·.name = name) =
        families.filter (·.name = name) := by
      simp
    rw [htwice] at hsub
    have hlen := ((byName_perm families).filter (·.name = name)).length_eq
    exact (hsub.eq_of_length hlen.symm).symm

theorem byName_strict {families : List Family} (h : (families.map Family.name).Nodup) :
    (byName families).Pairwise fun a b => a.name < b.name := by
  have hnodup : ((byName families).map Family.name).Nodup :=
    ((byName_perm families).map _).nodup_iff.mpr h
  rw [List.Nodup, List.pairwise_map] at hnodup
  exact (ascending_byName families).imp₂ (fun _ _ hle hne => lt_of_le_of_ne hle hne) hnodup

/-! ## Patterns that forbid names -/

/-- The families that must be there, which are those that give no pattern. -/
def required (expected : List Family) : List Family :=
  expected.filter fun f => (absencePattern? f).isNone

/-- The engine reads every pattern, and none of them matches an actual name. -/
def Clear (engine : Regex.Engine) (expected actual : List Family) : Prop :=
  ∀ f ∈ expected, ∀ pattern, absencePattern? f = some pattern →
    ∃ accepts, engine.matcher? pattern = some accepts ∧ ∀ a ∈ actual, accepts a.name = false

theorem absent_eq_ok_iff {entry : Absence} :
    absent actual entry = .ok () ↔ ∀ a ∈ actual, entry.2 a.name = false := by
  rw [absent]
  cases hfind : actual.find? fun f => entry.2 f.name with
  | none => simpa using hfind
  | some found =>
    have hmatch : entry.2 found.name = true := by simpa using List.find?_some hfind
    have hmem := List.mem_of_find?_eq_some hfind
    simp only [reduceCtorEq, false_iff, not_forall]
    exact ⟨found, hmem, by simp [hmatch]⟩

/-- Whichever failure would be told, the names are checked one by one. -/
theorem checkAbsent_eq_ok_iff {entries : List Absence} :
    j.checkAbsent actual entries = .ok () ↔
      ∀ entry ∈ entries, ∀ a ∈ actual, entry.2 a.name = false := by
  rw [checkAbsent]
  obtain ⟨us, hsettle, hall⟩ | ⟨entry, hentry, d, herror, hsettle⟩ :=
    j.pick.settle_map_cases (absent actual) entries
  · rw [hsettle]
    refine iff_of_true rfl fun entry hentry => absent_eq_ok_iff.mp ?_
    obtain ⟨i, hi, rfl⟩ := List.getElem_of_mem hentry
    exact hall.get hi (hall.length_eq ▸ hi)
  · rw [hsettle]
    refine iff_of_false nofun fun hall => ?_
    rw [absent_eq_ok_iff.mpr (hall entry hentry)] at herror
    cases herror

variable {engine : Regex.Engine}

theorem absences_cons {f : Family} {pattern : String} {accepts : String → Bool}
    (hpattern : absencePattern? f = some pattern)
    (haccepts : engine.matcher? pattern = some accepts) :
    absences engine (f :: expected) =
      (absences engine expected).map ((pattern, accepts) :: ·) := by
  rw [absences, hpattern]
  simp only [haccepts]
  cases absences engine expected <;> rfl

/-- Compiling the patterns and checking them succeeds if nothing is forbidden. -/
theorem clear_iff : (∃ entries, absences engine expected = .ok entries ∧
    j.checkAbsent actual entries = .ok ()) ↔ Clear engine expected actual := by
  induction expected with
  | nil => simp [absences, checkAbsent_eq_ok_iff, Clear]
  | cons f expected ih =>
    rw [Clear, List.forall_mem_cons, ← Clear, ← ih]
    cases hpattern : absencePattern? f with
    | none => simp [absences, hpattern]
    | some pattern =>
      cases haccepts : engine.matcher? pattern with
      | none => simp [absences, hpattern, haccepts]
      | some accepts =>
        rw [absences_cons hpattern haccepts]
        cases absences engine expected with
        | error d => simp [Except.map]
        | ok entries =>
          have hcons : j.checkAbsent actual ((pattern, accepts) :: entries) = .ok () ↔
              (∀ a ∈ actual, accepts a.name = false) ∧ j.checkAbsent actual entries = .ok () := by
            rw [checkAbsent_eq_ok_iff, checkAbsent_eq_ok_iff, List.forall_mem_cons]
          simp [Except.map, haccepts, hcons]

/-! ## Comparing lists of families -/

/-- Once nothing is forbidden, the verdict is that of the merge. -/
theorem metrics_of_clear (hne : expected ≠ []) (hclear : Clear j.engine expected actual) :
    j.metrics expected actual = j.bindFamilies (byName actual) (byName (required expected)) := by
  obtain ⟨entries, hentries, hcheck⟩ := (clear_iff (j := j)).mpr hclear
  rw [metrics, if_neg (by simpa using hne), hentries]
  simp only [bind, Except.bind, hcheck]
  rfl

/-- Lists in order of names, of which nothing is a pattern, are merged as they are. -/
theorem metrics_of_ascending (hne : expected ≠ []) (hrequired : required expected = expected)
    (hexpected : Ascending expected) (hactual : Ascending actual) :
    j.metrics expected actual = j.bindFamilies actual expected := by
  have hclear : Clear j.engine expected actual := by
    intro f hf pattern hpattern
    have hnone := List.filter_eq_self.mp hrequired f hf
    simp [hpattern] at hnone
  rw [metrics_of_clear hne hclear, hrequired, hexpected.byName_eq, hactual.byName_eq]

/-- Success needs something to expect, and nothing forbidden. -/
theorem clear_of_metrics (h : j.metrics expected actual = .ok ()) :
    expected ≠ [] ∧ Clear j.engine expected actual := by
  have hne : expected ≠ [] := by
    rintro rfl
    cases h
  refine ⟨hne, clear_iff (j := j) |>.mp ?_⟩
  rw [metrics, if_neg (by simpa using hne)] at h
  cases hentries : absences j.engine expected with
  | error d =>
    rw [hentries] at h
    cases h
  | ok entries =>
    refine ⟨entries, rfl, ?_⟩
    rw [hentries] at h
    simp only [bind, Except.bind] at h
    cases hcheck : j.checkAbsent actual entries with
    | error d =>
      rw [hcheck] at h
      cases h
    | ok u => rfl

theorem metrics_eq_ok_iff : j.metrics expected actual = .ok () ↔
    expected ≠ [] ∧ Clear j.engine expected actual ∧
      j.bindFamilies (byName actual) (byName (required expected)) = .ok () := by
  constructor
  · intro h
    obtain ⟨hne, hclear⟩ := clear_of_metrics h
    exact ⟨hne, hclear, metrics_of_clear hne hclear ▸ h⟩
  · rintro ⟨hne, hclear, hbind⟩
    rw [metrics_of_clear hne hclear, hbind]

/-- Success binds every required family to one that meets it. -/
theorem bindable_of_metrics (h : j.metrics expected actual = .ok ()) :
    Bindable j.Meets (required expected) actual := by
  obtain ⟨-, -, hbind⟩ := metrics_eq_ok_iff.mp h
  obtain ⟨own, hown, hall⟩ := exists_sublist_of_bindFamilies hbind
  exact (Bindable.of_sublist hall hown).perm (byName_perm _) (byName_perm _)

/-- With distinct names on the actual side, the merge is a look-up of every required family. -/
theorem merged_byName (hnames : (actual.map Family.name).Nodup) :
    j.Merged actual (byName (required expected))
      (j.bindFamilies (byName actual) (byName (required expected))) := by
  have h := bindFamilies_merged (j := j) (byName_strict hnames)
    (ascending_byName (required expected))
  exact h.perm_actual (byName_perm actual)

/-- **Comparing families agrees with looking them up.** Whatever the lists hold, success means that
nothing is forbidden and that the required families are met, each by a family of its own. With
distinct names on the actual side that is all success takes, and a failure is told of the first
required family, in order of names, that is not met. -/
theorem metrics_lookup (j : Judge) (expected actual : List Family) :
    (j.metrics expected actual = .ok () →
      expected ≠ [] ∧ Clear j.engine expected actual ∧
        Bindable j.Meets (required expected) actual) ∧
    ((actual.map Family.name).Nodup →
      (j.metrics expected actual = .ok () ↔ expected ≠ [] ∧ Clear j.engine expected actual ∧
        ((required expected).map Family.name).Nodup ∧
        ∀ e ∈ required expected, ∃ a ∈ actual, j.Meets e a) ∧
      ∀ d, expected ≠ [] → Clear j.engine expected actual → j.metrics expected actual = .error d →
        ∃ front e back, InNameOrder (required expected) (front ++ e :: back) ∧
          j.Matched actual front ∧ ¬ j.Matched actual (front ++ [e]) ∧
          j.Refusal actual front e d) := by
  refine ⟨fun h => ?_, fun hnames => ⟨⟨fun h => ?_, ?_⟩, fun d hne hclear h => ?_⟩⟩
  · obtain ⟨hne, hclear⟩ := clear_of_metrics h
    exact ⟨hne, hclear, bindable_of_metrics h⟩
  · obtain ⟨hne, hclear, hbind⟩ := metrics_eq_ok_iff.mp h
    have hmerged : j.Merged actual (byName (required expected)) _ := merged_byName hnames
    rw [hbind] at hmerged
    cases hmerged with
    | complete hmatched =>
      obtain ⟨hdistinct, hmet⟩ := hmatched.perm (.refl _) (byName_perm _)
      exact ⟨hne, hclear, hdistinct, hmet⟩
  · rintro ⟨hne, hclear, hdistinct, hmet⟩
    refine metrics_eq_ok_iff.mpr ⟨hne, hclear, ?_⟩
    have hmatched : j.Matched actual (byName (required expected)) :=
      Matched.perm ⟨hdistinct, hmet⟩ (.refl _) (byName_perm _).symm
    exact (merged_byName hnames).eq_ok hnames hmatched
  · rw [metrics_of_clear hne hclear] at h
    have hmerged : j.Merged actual (byName (required expected)) _ := merged_byName hnames
    rw [h] at hmerged
    cases hmerged with
    | @stopped front back e d hsplit hfront hrefusal =>
      exact ⟨front, e, back, hsplit ▸ byName_inNameOrder _, hfront,
        hrefusal.not_matched hnames, hrefusal⟩

/-- A gauge with one sample. -/
def plainGauge (name value : String) : Family :=
  { name, kind := .gauge, samples := [.plain { value }] }

/-- Two gauges. -/
def twoGauges : List Family :=
  [plainGauge "down" "2", plainGauge "up" "1"]

/-- A pattern that no gauge of the two matches, and predicates for both. -/
def wantedGauges : List Family :=
  [plainGauge "notcontains ^lost_" "", plainGauge "down" "gt 1", plainGauge "up" "eq 1"]

theorem clear_wantedGauges : Clear .standard wantedGauges twoGauges := by
  have hpattern : absencePattern? (plainGauge "notcontains ^lost_" "") = some "^lost_" := by
    decide +kernel
  have hfree : ((Regex.Engine.standard.matcher? "^lost_").map fun accepts =>
      twoGauges.all fun a => accepts a.name = false) = some true := by
    decide +kernel
  obtain ⟨accepts, haccepts, hall⟩ := Option.map_eq_some_iff.mp hfree
  refine List.forall_mem_cons.mpr ⟨fun pattern h => ?_, fun f hf pattern h => ?_⟩
  · cases hpattern.symm.trans h
    exact ⟨accepts, haccepts, by simpa using hall⟩
  · have hnone : ∀ f ∈ wantedGauges.tail, absencePattern? f = none := by decide +kernel
    cases (hnone f hf).symm.trans h

/-- Both gauges are looked up. A gauge that is not there is what the failure tells of, and what
stands before it in order of names has been found. -/
theorem metrics_lookup_gauges :
    (twoGauges.map Family.name).Nodup ∧
      metrics { env := fun _ => none } wantedGauges twoGauges = .ok () ∧
      Bindable (Meets { env := fun _ => none }) (required wantedGauges) twoGauges ∧
      (∀ e ∈ required wantedGauges, ∃ a ∈ twoGauges, Meets { env := fun _ => none } e a) ∧
      ∃ front e back,
        InNameOrder (required (wantedGauges ++ [plainGauge "up_late" "any"])) (front ++ e :: back) ∧
        Matched { env := fun _ => none } twoGauges front ∧
        ¬ Matched { env := fun _ => none } twoGauges (front ++ [e]) ∧
        Refusal { env := fun _ => none } twoGauges front e (.familyNotFound "up_late" .gauge) := by
  have hnames : (twoGauges.map Family.name).Nodup := by decide +kernel
  have hactual : Ascending twoGauges := by
    rw [Ascending]
    decide +kernel
  have hfound : metrics { env := fun _ => none } wantedGauges twoGauges = .ok () := by
    have hexpected : Ascending (required wantedGauges) := by
      rw [Ascending]
      decide +kernel
    rw [metrics_of_clear (by decide) clear_wantedGauges, hexpected.byName_eq, hactual.byName_eq]
    decide +kernel
  have hclear : Clear .standard (wantedGauges ++ [plainGauge "up_late" "any"]) twoGauges := by
    refine List.forall_mem_append.mpr ⟨clear_wantedGauges, fun f hf pattern h => ?_⟩
    have hnone : ∀ f ∈ [plainGauge "up_late" "any"], absencePattern? f = none := by decide +kernel
    cases (hnone f hf).symm.trans h
  have hmissing : metrics { env := fun _ => none } (wantedGauges ++ [plainGauge "up_late" "any"])
      twoGauges = .error (.familyNotFound "up_late" .gauge) := by
    have hexpected : Ascending (required (wantedGauges ++ [plainGauge "up_late" "any"])) := by
      rw [Ascending]
      decide +kernel
    rw [metrics_of_clear (by simp) hclear, hexpected.byName_eq, hactual.byName_eq]
    decide +kernel
  obtain ⟨hsound, hcomplete⟩ := metrics_lookup { env := fun _ => none } wantedGauges twoGauges
  obtain ⟨-, -, hbindable⟩ := hsound hfound
  obtain ⟨-, -, -, hmet⟩ := (hcomplete hnames).1.mp hfound
  obtain ⟨-, hfailure⟩ := (metrics_lookup { env := fun _ => none } _ twoGauges).2 hnames
  exact ⟨hnames, hfound, hbindable, hmet, hfailure _ (by simp) hclear hmissing⟩

end Judge

end Assay
