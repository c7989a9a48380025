import Assay.Proofs.Metric.Lookup
import Mathlib.Data.List.Perm.Subperm

/-!
# The order of families

Families of one name but different kinds keep the order in which they are given, and the merge does
not go back for one that it has left behind. So the order of the lists counts as soon as two
families of one name are required, although all of them are there.
-/

namespace Assay

open Assay.Metric

namespace Judge

open List (Forall₂)

variable {j : Judge} {actual actual' expected expected' : List Family}

/-! ## Orders of a list -/

/-- Two elements of a list without repetitions stand in one order only. -/
theorem not_sublist_swap {α : Type} {l : List α} (h : l.Nodup) {a b : α}
    (hab : [a, b].Sublist l) : ¬ [b, a].Sublist l := by
  intro hba
  induction l with
  | nil => cases hab
  | cons c l ih =>
    rw [List.nodup_cons] at h
    cases hab with
    | cons _ hab =>
      cases hba with
      | cons _ hba => exact ih h.2 hab hba
      | cons_cons _ _ => exact h.1 (hab.subset (by simp))
    | cons_cons _ hb =>
      cases hba with
      | cons _ hba => exact h.1 (hba.subset (by simp))
      | cons_cons _ ha => exact h.1 (ha.subset (by simp))

/-- Families of different names that all occur in a list in order of names occur in that order. -/
theorem sublist_of_strict {own families : List Family}
    (hown : own.Pairwise fun a b => a.name < b.name) (hfamilies : Ascending families)
    (hsub : own ⊆ families) : own.Sublist families := by
  induction families generalizing own with
  | nil => rw [List.subset_nil.mp hsub]
  | cons f families ih =>
    rw [Ascending, List.pairwise_cons] at hfamilies
    cases own with
    | nil => exact List.nil_sublist _
    | cons o own =>
      rw [List.pairwise_cons] at hown
      have hin : ∀ g ∈ own, f.name ≤ o.name → g ∈ families := by
        intro g hg hle
        rcases List.mem_cons.mp (hsub (List.mem_cons_of_mem _ hg)) with rfl | hmem
        · exact absurd hle (not_le.mpr (hown.1 g hg))
        · exact hmem
      rcases List.mem_cons.mp (hsub List.mem_cons_self) with rfl | hmem
      · exact (ih hown.2 hfamilies.2 fun g hg => hin g hg le_rfl).cons_cons o
      · refine (ih (List.pairwise_cons.mpr hown) hfamilies.2 fun g hg => ?_).cons f
        rcases List.mem_cons.mp hg with rfl | hg
        · exact hmem
        · exact hin g hg (hfamilies.1 o hmem)

/-! ## Families that are all there -/

/-- Nothing is forbidden, and every required family is met, whatever the order. -/
structure Satisfied (j : Judge) (expected actual : List Family) : Prop where
  nonempty : expected ≠ []
  clear : Clear j.engine expected actual
  met : ∀ e ∈ required expected, ∃ a ∈ actual, j.Meets e a

theorem satisfied_of_metrics (h : j.metrics expected actual = .ok ()) :
    j.Satisfied expected actual := by
  obtain ⟨hne, hclear⟩ := clear_of_metrics h
  exact ⟨hne, hclear, fun e he => (bindable_of_metrics h).exists_of_mem he⟩

theorem Satisfied.perm (h : j.Satisfied expected actual) (he : expected.Perm expected')
    (ha : actual.Perm actual') : j.Satisfied expected' actual' where
  nonempty := by
    rintro rfl
    exact h.nonempty he.eq_nil
  clear f hf pattern hpattern := by
    obtain ⟨accepts, haccepts, hnone⟩ := h.clear f (he.mem_iff.mpr hf) pattern hpattern
    exact ⟨accepts, haccepts, fun a hmem => hnone a (ha.mem_iff.mpr hmem)⟩
  met e hmem := by
    obtain ⟨a, hmem', hmeets⟩ := h.met e ((he.filter _).mem_iff.mpr hmem)
    exact ⟨a, ha.mem_iff.mp hmem', hmeets⟩

/-- The actual families that meet those of a list, one by one. -/
theorem exists_own {es : List Family} (h : ∀ e ∈ es, ∃ a ∈ actual, j.Meets e a) :
    ∃ own, own ⊆ actual ∧ Forall₂ j.Meets es own := by
  induction es with
  | nil => exact ⟨[], List.nil_subset _, .nil⟩
  | cons e es ih =>
    rw [List.forall_mem_cons] at h
    obtain ⟨a, ha, hmeets⟩ := h.1
    obtain ⟨own, hown, hall⟩ := ih h.2
    exact ⟨a :: own, List.cons_subset.mpr ⟨ha, hown⟩, .cons hmeets hall⟩

theorem map_key_of_meets {es own : List Family} (h : Forall₂ j.Meets es own) :
    own.map Family.key = es.map Family.key := by
  induction h with
  | nil => rfl
  | cons hmeets _ ih => rw [List.map_cons, List.map_cons, hmeets.key, ih]

theorem map_name_of_meets {es own : List Family} (h : Forall₂ j.Meets es own) :
    own.map Family.name = es.map Family.name := by
  have hkeys := congrArg (List.map Prod.fst) (map_key_of_meets h)
  simpa [Function.comp_def, Family.key] using hkeys

theorem ascending_of_meets {es own : List Family} (h : Forall₂ j.Meets es own)
    (hes : Ascending es) : Ascending own := by
  have hnames : (es.map Family.name).Pairwise (· ≤ ·) := List.pairwise_map.mpr hes
  rw [← map_name_of_meets h] at hnames
  exact List.pairwise_map.mp hnames

/-- With distinct keys, only one list of actual families meets the expected ones. -/
theorem eq_of_meets {es own own' : List Family} (ha : (actual.map Family.key).Nodup)
    (hown : own ⊆ actual) (hown' : own' ⊆ actual) (h : Forall₂ j.Meets es own)
    (h' : Forall₂ j.Meets es own') : own = own' := by
  induction h generalizing own' with
  | nil =>
    cases h'
    rfl
  | cons hmeets _ ih =>
    cases h' with
    | cons hmeets' h' =>
      rw [List.cons_subset] at hown hown'
      have hkey := hmeets.key.trans hmeets'.key.symm
      rw [List.inj_on_of_nodup_map ha hown.1 hown'.1 hkey, ih hown.2 hown'.2 h']

/-! ## Orders that lead to success or failure -/

/-- The actual families that meet the required ones can be brought to the front, in order. -/
theorem Satisfied.exists_front (h : j.Satisfied expected actual)
    (he : ((required expected).map Family.key).Nodup) :
    ∃ own rest, actual.Perm (own ++ rest) ∧ Forall₂ j.Meets (byName (required expected)) own := by
  have hperm := byName_perm (required expected)
  obtain ⟨own, hsub, hall⟩ := exists_own fun e hmem => h.met e (hperm.mem_iff.mp hmem)
  have hkeys : (own.map Family.key).Nodup := by
    rw [map_key_of_meets hall]
    exact (hperm.map _).nodup_iff.mpr he
  obtain ⟨part, hpart, hactual⟩ := List.subperm_of_subset hkeys.of_map hsub
  obtain ⟨rest, hrest⟩ := hactual.exists_perm_append
  exact ⟨own, rest, hrest.trans (hpart.append_right rest), hall⟩

/-- Success is settled by what stands in order of names on the actual side. -/
theorem Satisfied.metrics_eq_ok_iff (h : j.Satisfied expected actual)
    (ha : (actual.map Family.key).Nodup) : j.metrics expected actual = .ok () ↔
      ∃ own, own.Sublist (byName actual) ∧ Forall₂ j.Meets (byName (required expected)) own := by
  rw [metrics_of_clear h.nonempty h.clear]
  have hkeys : ((byName actual).map Family.key).Nodup :=
    ((byName_perm actual).map _).nodup_iff.mpr ha
  constructor
  · exact exists_sublist_of_bindFamilies
  · rintro ⟨own, hown, hall⟩
    exact bindFamilies_of_sublist (ascending_byName actual) hkeys hown hall

/-- **Some order of the actual families leads to success** if all required ones are there. -/
theorem Satisfied.exists_perm_ok (h : j.Satisfied expected actual)
    (he : ((required expected).map Family.key).Nodup) (ha : (actual.map Family.key).Nodup) :
    ∃ actual', actual.Perm actual' ∧ j.metrics expected actual' = .ok () := by
  obtain ⟨own, rest, hperm, hall⟩ := h.exists_front he
  have hkeys : ((own ++ rest).map Family.key).Nodup := (hperm.map _).nodup_iff.mp ha
  refine ⟨own ++ rest, hperm, ((h.perm (.refl _) hperm).metrics_eq_ok_iff hkeys).mpr ?_⟩
  have hown : Ascending own := ascending_of_meets hall (ascending_byName _)
  exact ⟨own, sublist_byName hown (List.sublist_append_left own rest), hall⟩

/-- **Some order leads to failure** if two families of one name are required: the two actual
families change places. -/
theorem Satisfied.exists_perm_error (h : j.Satisfied expected actual)
    (he : ((required expected).map Family.key).Nodup) (ha : (actual.map Family.key).Nodup)
    (hnames : ¬ ((required expected).map Family.name).Nodup) :
    ∃ actual', actual.Perm actual' ∧ j.metrics expected actual' ≠ .ok () := by
  obtain ⟨own, rest, hperm, hall⟩ := h.exists_front he
  have hback : actual.Perm (own.reverse ++ rest) :=
    hperm.trans ((List.reverse_perm own).symm.append_right rest)
  have hkeys : ((own.reverse ++ rest).map Family.key).Nodup := (hback.map _).nodup_iff.mp ha
  have hsorted := byName_perm (own.reverse ++ rest)
  refine ⟨own.reverse ++ rest, hback, fun hok => ?_⟩
  obtain ⟨own', hown', hall'⟩ :=
    ((h.perm (.refl _) hback).metrics_eq_ok_iff hkeys).mp hok
  -- the families that are found are those that were brought to the front
  obtain rfl : own = own' := by
    refine eq_of_meets hkeys (fun f hf => ?_) (fun f hf => ?_) hall hall'
    · simp [hf]
    · exact hsorted.mem_iff.mp (hown'.subset hf)
  obtain ⟨a, b, hab, hname⟩ : ∃ a b, [a, b].Sublist own ∧ a.name = b.name := by
    by_contra hno
    apply hnames
    have hdistinct : (own.map Family.name).Nodup := by
      rw [List.Nodup, List.pairwise_map, List.pairwise_iff_forall_sublist]
      exact fun hab hname => hno ⟨_, _, hab, hname⟩
    rw [map_name_of_meets hall] at hdistinct
    exact ((byName_perm _).map _).nodup_iff.mp hdistinct
  have hba : [b, a].Sublist (byName (own.reverse ++ rest)) := by
    apply sublist_byName
    · simp [Ascending, hname]
    · have hrev : [b, a].Sublist own.reverse := by simpa using hab.reverse
      exact hrev.trans (List.sublist_append_left _ _)
  exact not_sublist_swap (hsorted.nodup_iff.mpr hkeys.of_map) (hab.trans hown') hba

/-- If no two required families share their name, the order of the actual ones does not count. -/
theorem Satisfied.metrics_eq_ok (h : j.Satisfied expected actual)
    (ha : (actual.map Family.key).Nodup) (hnames : ((required expected).map Family.name).Nodup) :
    j.metrics expected actual = .ok () := by
  obtain ⟨own, hsub, hall⟩ :=
    exists_own fun e hmem => h.met e ((byName_perm (required expected)).mem_iff.mp hmem)
  refine (h.metrics_eq_ok_iff ha).mpr ⟨own, ?_, hall⟩
  have hstrict : (own.map Family.name).Pairwise (· < ·) := by
    rw [map_name_of_meets hall, List.pairwise_map]
    exact byName_strict hnames
  exact sublist_of_strict (List.pairwise_map.mp hstrict) (ascending_byName actual) fun f hf =>
    (byName_perm actual).mem_iff.mpr (hsub hf)

/-- **When the order of families does not count**, given that on neither side two families share
name and kind: no reordering of either list changes the verdict exactly if it is failure anyway, or
no two of the required families share their name. -/
theorem metrics_perm_iff (j : Judge) {expected actual : List Family}
    (he : ((required expected).map Family.key).Nodup) (ha : (actual.map Family.key).Nodup) :
    (∀ expected' actual', expected.Perm expected' → actual.Perm actual' →
      (j.metrics expected' actual' = .ok () ↔ j.metrics expected actual = .ok ())) ↔
    ¬ j.Satisfied expected actual ∨ ((required expected).map Family.name).Nodup := by
  constructor
  · intro hsame
    by_contra hcon
    rw [not_or, Classical.not_not] at hcon
    obtain ⟨hsat, hnames⟩ := hcon
    obtain ⟨good, hgood, hok⟩ := hsat.exists_perm_ok he ha
    obtain ⟨bad, hbad, herr⟩ := hsat.exists_perm_error he ha hnames
    have hactual := (hsame expected good (.refl _) hgood).mp hok
    exact herr ((hsame expected bad (.refl _) hbad).mpr hactual)
  · rintro hcond expected' actual' hpe hpa
    by_cases hsat : j.Satisfied expected actual
    · have hnames := hcond.resolve_left (not_not_intro hsat)
      have hnames' : ((required expected').map Family.name).Nodup :=
        ((hpe.filter _).map _).nodup_iff.mp hnames
      have hkeys' : (actual'.map Family.key).Nodup := (hpa.map _).nodup_iff.mp ha
      exact iff_of_true ((hsat.perm hpe hpa).metrics_eq_ok hkeys' hnames')
        (hsat.metrics_eq_ok ha hnames)
    · refine iff_of_false (fun h => hsat ?_) (fun h => hsat (satisfied_of_metrics h))
      exact (satisfied_of_metrics h).perm hpe.symm hpa.symm

/-- A gauge and a counter of one name, each with one sample. -/
def gaugeAndCounter : List Family :=
  [{ name := "up", kind := .gauge, samples := [.plain { value := "1" }] },
   { name := "up", kind := .counter, samples := [.plain { value := "1" }] }]

theorem metrics_perm_iff_gaugeAndCounter :
    ((required gaugeAndCounter).map Family.key).Nodup ∧ (gaugeAndCounter.map Family.key).Nodup ∧
    ((∀ expected' actual', gaugeAndCounter.Perm expected' → gaugeAndCounter.Perm actual' →
      (metrics { env := fun _ => none } expected' actual' = .ok () ↔
        metrics { env := fun _ => none } gaugeAndCounter gaugeAndCounter = .ok ())) ↔
      ¬ Satisfied { env := fun _ => none } gaugeAndCounter gaugeAndCounter ∨
        ((required gaugeAndCounter).map Family.name).Nodup) :=
  have he : ((required gaugeAndCounter).map Family.key).Nodup := by decide +kernel
  have ha : (gaugeAndCounter.map Family.key).Nodup := by decide +kernel
  ⟨he, ha, metrics_perm_iff _ he ha⟩

/-- The two are found if they are expected in the order in which they are given, and not if they are
expected the other way round. -/
theorem metrics_order_matters :
    ((required gaugeAndCounter).map Family.key).Nodup ∧ (gaugeAndCounter.map Family.key).Nodup ∧
    metrics { env := fun _ => none } gaugeAndCounter gaugeAndCounter.reverse =
      .error (.familyNotFound "up" .counter) ∧
    metrics { env := fun _ => none } gaugeAndCounter.reverse gaugeAndCounter.reverse = .ok () ∧
    metrics { env := fun _ => none } gaugeAndCounter gaugeAndCounter = .ok () :=
  have hsorted : Ascending gaugeAndCounter := by simp [Ascending, gaugeAndCounter]
  have hsorted' : Ascending gaugeAndCounter.reverse := by simp [Ascending, gaugeAndCounter]
  have hrequired : required gaugeAndCounter = gaugeAndCounter := by decide +kernel
  have hrequired' : required gaugeAndCounter.reverse = gaugeAndCounter.reverse := by decide +kernel
  ⟨by decide +kernel, by decide +kernel,
    (metrics_of_ascending (by decide) hrequired hsorted hsorted').trans (by decide +kernel),
    (metrics_of_ascending (by decide) hrequired' hsorted' hsorted').trans (by decide +kernel),
    (metrics_of_ascending (by decide) hrequired hsorted hsorted).trans (by decide +kernel)⟩

end Judge

end Assay
