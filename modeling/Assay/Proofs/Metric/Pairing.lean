import Assay.Metric.Match
import Assay.Proofs.Assignment.Binding
import Assay.Proofs.Judge
import Assay.Proofs.SideBySide

/-!
# Pairing the samples of two families

Two families match exactly if every expected sample can be given an actual one that suits it, no two
the same; actual samples may be left over. A failure is told of an expected sample that no actual
one suits, whichever of several, and else of the first that cannot be bound together with those
before it. Nothing here depends on how two samples are compared.
-/

namespace Assay

open Assay.Metric

namespace Judge

open Assignment
open SideBySide (Pick)

variable {j : Judge} {e : Sample} {i : Nat}

/-! ## The candidates of one sample -/

/-- An actual sample suits an expected one if nothing is wrong between them. -/
def Suits (j : Judge) (expected actual : Sample) : Prop :=
  j.sample expected actual = .ok ()

instance (j : Judge) (expected actual : Sample) : Decidable (j.Suits expected actual) :=
  inferInstanceAs (Decidable (j.sample expected actual = .ok ()))

/-- No sample of a pool suits an expected one. -/
def Unmet (j : Judge) (pool : List Sample) (expected : Sample) : Prop :=
  ∀ a ∈ pool, ¬ j.Suits expected a

instance (j : Judge) (pool : List Sample) (expected : Sample) : Decidable (j.Unmet pool expected) :=
  inferInstanceAs (Decidable (∀ a ∈ pool, ¬ j.Suits expected a))

/-- What is told of an expected sample at a position, if no sample of a pool suits it: what is wrong
with the last one, unless there is none. -/
inductive Told (j : Judge) (pool : List Sample) (i : Nat) (e : Sample) : Discrepancy → Prop where
  | none (h : pool = []) : Told j pool i e (.samplesTaken i)
  | last {a : Sample} {reason : Discrepancy} (ha : pool.getLast? = some a)
      (h : j.sample e a = .error reason) : Told j pool i e (.sample i reason)

/-- The slots of a search are those of the samples that suit. -/
theorem fst_trySamples (e : Sample) (pool : List (Sample × Nat)) :
    (j.trySamples e pool).1 = (pool.filter (j.sample e ·.1 = .ok ())).map Prod.snd := by
  induction pool with
  | nil => rfl
  | cons p pool ih => cases hs : j.sample e p.1 <;> simp [trySamples, hs, ih]

theorem mem_trySamples {pool : List (Sample × Nat)} {slot : Nat} :
    slot ∈ (j.trySamples e pool).1 ↔ ∃ a, (a, slot) ∈ pool ∧ j.Suits e a := by
  simp [fst_trySamples, Suits]

/-- A search that accepts nothing remembers what is wrong with the last sample. -/
theorem trySamples_of_unmet {pool : List (Sample × Nat)} (h : j.Unmet (pool.map Prod.fst) e)
    (hne : pool ≠ []) : ∃ a reason, (pool.map Prod.fst).getLast? = some a ∧
      j.sample e a = .error reason ∧ j.trySamples e pool = ([], some reason) := by
  induction pool with
  | nil => exact absurd rfl hne
  | cons p pool ih =>
    obtain ⟨a, k⟩ := p
    rw [Unmet, List.map_cons, List.forall_mem_cons] at h
    cases hs : j.sample e a with
    | ok u => exact absurd hs h.1
    | error d =>
      by_cases hnil : pool = []
      · subst hnil
        exact ⟨a, d, rfl, hs, by simp [trySamples, hs]⟩
      · obtain ⟨a', reason, hlast, hreason, htry⟩ := ih h.2 hnil
        refine ⟨a', reason, ?_, hreason, by simp [trySamples, htry, hs]⟩
        rw [List.map_cons, List.getLast?_cons, hlast, Option.getD_some]

/-- **The candidates of a sample** are the positions of all samples that suit it; it is an error if
there are none. -/
theorem sampleCandidates_cases (pool : List Sample) (e : Sample) (i : Nat) :
    (∃ slots, j.sampleCandidates pool (e, i) = .ok slots ∧ ¬ j.Unmet pool e ∧
      Offers j.Suits pool e slots) ∨
    (j.Unmet pool e ∧ ∃ d, j.sampleCandidates pool (e, i) = .error d ∧ j.Told pool i e d) := by
  have hoffers : Offers j.Suits pool e (j.trySamples e pool.zipIdx).1 := by
    intro slot
    rw [mem_trySamples]
    simp only [List.mk_mem_zipIdx_iff_getElem?]
  by_cases hunmet : j.Unmet pool e
  · refine .inr ⟨hunmet, ?_⟩
    by_cases hnil : pool = []
    · subst hnil
      exact ⟨_, rfl, .none rfl⟩
    · have hall : j.Unmet (pool.zipIdx.map Prod.fst) e := by rwa [List.zipIdx_map_fst]
      obtain ⟨a, reason, hlast, hreason, htry⟩ := trySamples_of_unmet hall (by simpa using hnil)
      rw [List.zipIdx_map_fst] at hlast
      exact ⟨.sample i reason, by simp only [sampleCandidates, htry], .last hlast hreason⟩
  · refine .inl ⟨(j.trySamples e pool.zipIdx).1, ?_, hunmet, hoffers⟩
    obtain ⟨a, ha, hsuits⟩ : ∃ a ∈ pool, j.Suits e a := by
      simpa [Unmet] using hunmet
    obtain ⟨slot, hslot, rfl⟩ := List.getElem_of_mem ha
    have hmem := (hoffers slot).mpr ⟨_, List.getElem?_eq_getElem hslot, hsuits⟩
    unfold sampleCandidates
    generalize j.trySamples e pool.zipIdx = tried at hmem ⊢
    obtain ⟨slots, last⟩ := tried
    cases slots with
    | nil => cases hmem
    | cons slot slots => rfl

theorem of_sampleCandidates_ok {pool : List Sample} {slots : List Nat}
    (h : j.sampleCandidates pool (e, i) = .ok slots) :
    ¬ j.Unmet pool e ∧ Offers j.Suits pool e slots := by
  rcases sampleCandidates_cases (j := j) pool e i with ⟨slots', hok, hmet, ho⟩ | ⟨-, d, herr, -⟩
  · obtain rfl : slots' = slots := Except.ok.inj (hok.symm.trans h)
    exact ⟨hmet, ho⟩
  · cases herr.symm.trans h

theorem of_sampleCandidates_error {pool : List Sample} {d : Discrepancy}
    (h : j.sampleCandidates pool (e, i) = .error d) : j.Unmet pool e ∧ j.Told pool i e d := by
  rcases sampleCandidates_cases (j := j) pool e i with ⟨slots, hok, -⟩ | ⟨hunmet, d', herr, htold⟩
  · cases hok.symm.trans h
  · obtain rfl : d' = d := Except.error.inj (herr.symm.trans h)
    exact ⟨hunmet, htold⟩

/-! ## The samples of two families -/

variable {expected actual : Family}

/-- What a comparison of the samples of two families comes to. -/
inductive FamilyOutcome (j : Judge) (expected actual : Family) :
    Except Discrepancy Unit → Prop where
  | bound (h : Bindable j.Suits expected.samples actual.samples) :
      FamilyOutcome j expected actual (.ok ())
  /-- An expected sample is told of that no actual one suits. -/
  | unmet {k : Nat} {e : Sample} {d : Discrepancy} (he : expected.samples[k]? = some e)
      (hunmet : j.Unmet actual.samples e) (hd : j.Told actual.samples k e d) :
      FamilyOutcome j expected actual (.error d)
  /-- The first expected sample is told of that cannot be bound together with those before it. -/
  | contested {k : Nat} (hmet : ∀ e ∈ expected.samples, ¬ j.Unmet actual.samples e)
      (hk : IsLeast {i | i < expected.samples.length ∧
        ¬ Bindable j.Suits (expected.samples.take (i + 1)) actual.samples} k) :
      FamilyOutcome j expected actual (.error (.samplesTaken k))

/-- An assignment of candidates settles whether samples that are all met can be bound. -/
theorem familyOutcome_assign {candidates : List (List Nat)}
    (hmet : ∀ e ∈ expected.samples, ¬ j.Unmet actual.samples e)
    (h : List.Forall₂ (Offers j.Suits actual.samples) expected.samples candidates) :
    FamilyOutcome j expected actual
      (match assign candidates actual.samples.length with
      | .ok _ => .ok ()
      | .error index => .error (.samplesTaken index)) := by
  cases hassign : assign candidates actual.samples.length with
  | ok picked => exact .bound (bindable_of_assign h hassign)
  | error k =>
    obtain ⟨hk, hbefore, hnow⟩ := unbound_of_assign h hassign
    refine .contested hmet ⟨⟨hk, hnow⟩, ?_⟩
    rintro i ⟨-, hi⟩
    by_contra hlt
    exact hi (hbefore _ (by omega))

/-- **Every comparison of samples** comes to one of the outcomes. -/
theorem family_outcome (j : Judge) (expected actual : Family) :
    FamilyOutcome j expected actual (j.family expected actual) := by
  unfold family
  rcases j.pick.settle_map_cases (j.sampleCandidates actual.samples) expected.samples.zipIdx with
    ⟨candidates, hsettle, hall⟩ | ⟨⟨e, k⟩, hmem, d, herr, hsettle⟩
  · rw [hsettle]
    refine familyOutcome_assign (fun e he => ?_) ?_
    · obtain ⟨i, hi, rfl⟩ := List.getElem_of_mem he
      have hslots := (List.forall₂_iff_get.mp hall).2 i (by simpa using hi)
        (hall.length_eq ▸ by simpa using hi)
      rw [List.get_eq_getElem, List.getElem_zipIdx] at hslots
      exact (of_sampleCandidates_ok hslots).1
    · rw [← List.zipIdx_map_fst 0 expected.samples, List.forall₂_map_left_iff]
      exact hall.imp fun p slots hslots => (of_sampleCandidates_ok hslots).2
  · rw [hsettle]
    obtain ⟨hunmet, htold⟩ := of_sampleCandidates_error herr
    exact .unmet (List.mk_mem_zipIdx_iff_getElem?.mp hmem) hunmet htold

theorem not_bindable_of_unmet {pool es : List Sample} (he : e ∈ es) (h : j.Unmet pool e) :
    ¬ Bindable j.Suits es pool := by
  intro hb
  obtain ⟨a, ha, hsuits⟩ := hb.exists_of_mem he
  exact h a ha hsuits

theorem family_eq_ok_iff_bindable :
    j.family expected actual = .ok () ↔ Bindable j.Suits expected.samples actual.samples := by
  have h := family_outcome j expected actual
  generalize j.family expected actual = result at h
  cases h with
  | bound h => simp [h]
  | unmet he hunmet hd => simp [not_bindable_of_unmet (List.mem_of_getElem? he) hunmet]
  | contested hmet hk =>
    have hno : ¬ Bindable j.Suits expected.samples actual.samples := fun hb => hk.1.2 (hb.take _)
    simp [hno]

/-! ## Choices among unmet samples

The judge's choice is asked for only once the candidates of all samples are known. -/

section Picking

variable {pick : Pick Discrepancy}

theorem labels_picking (expected actual : Labels) :
    (j.picking pick).labels expected actual = j.labels expected actual := by
  have hentries : ∀ es, (j.picking pick).labelEntries actual es = j.labelEntries actual es := by
    intro es
    induction es with
    | nil => rfl
    | cons e es ih =>
      rw [labelEntries, labelEntries, ih]
      rfl
  rw [labels, labels, hentries]

theorem keyedEntries_picking (what : String) (actual : Dictionary String)
    (es : List (String × String)) :
    (j.picking pick).keyedEntries what actual es = j.keyedEntries what actual es := by
  induction es with
  | nil => rfl
  | cons e es ih =>
    rw [keyedEntries, keyedEntries, ih]
    rfl

theorem sample_picking (expected actual : Sample) :
    (j.picking pick).sample expected actual = j.sample expected actual := by
  cases expected <;> cases actual <;>
    simp only [sample, labels_picking, keyedEntries_picking] <;> rfl

@[simp] theorem suits_picking : (j.picking pick).Suits = j.Suits := by
  funext expected actual
  rw [Suits, Suits, sample_picking]

theorem sampleCandidates_picking (pool : List Sample) (expected : Sample × Nat) :
    (j.picking pick).sampleCandidates pool expected = j.sampleCandidates pool expected := by
  have htry : ∀ pool : List (Sample × Nat),
      (j.picking pick).trySamples expected.1 pool = j.trySamples expected.1 pool := by
    intro pool
    induction pool with
    | nil => rfl
    | cons s pool ih => rw [trySamples, trySamples, ih, sample_picking]
  rw [sampleCandidates, sampleCandidates, htry]

/-- **Any unmet sample may be told of.** -/
theorem exists_pick_of_unmet {k : Nat} (he : expected.samples[k]? = some e)
    (h : j.Unmet actual.samples e) : ∃ pick d,
      (j.picking pick).family expected actual = .error d ∧ j.Told actual.samples k e d := by
  rcases sampleCandidates_cases (j := j) actual.samples e k with ⟨-, -, hmet, -⟩ | ⟨-, d, hd, htold⟩
  · exact absurd h hmet
  · refine ⟨.prefer d, d, ?_, htold⟩
    have hmem : .error d ∈ expected.samples.zipIdx.map (j.sampleCandidates actual.samples) :=
      List.mem_map.mpr ⟨(e, k), List.mk_mem_zipIdx_iff_getElem?.mpr he, hd⟩
    have hcandidates : (j.picking (.prefer d)).sampleCandidates actual.samples =
        j.sampleCandidates actual.samples :=
      funext (sampleCandidates_picking actual.samples)
    rw [family, hcandidates, pick_picking, Pick.settle_prefer hmem]
    rfl

/-- If the first failure is chosen, the first unmet sample is told of. -/
theorem first_unmet_of_pick_first {d : Discrepancy} (hpick : j.pick = .first)
    (h : j.family expected actual = .error d)
    (hunmet : ∃ e ∈ expected.samples, j.Unmet actual.samples e) :
    ∃ k e, IsLeast {i | ∃ e', expected.samples[i]? = some e' ∧ j.Unmet actual.samples e'} k ∧
      expected.samples[k]? = some e ∧ j.Told actual.samples k e d := by
  rw [family, hpick] at h
  rcases bind_eq_error h with hsettle | ⟨candidates, hsettle, -⟩
  · obtain ⟨front, back, hsplit, hfront⟩ := Pick.settle_first hsettle
    obtain ⟨front, rest, hsamples, rfl, hrest⟩ := List.map_eq_append_iff.mp hsplit
    obtain ⟨⟨e, k⟩, back, rfl, herror, rfl⟩ := List.map_eq_cons_iff.mp hrest
    obtain ⟨he, hbefore, -⟩ := of_zipIdx_eq_append hsamples
    obtain ⟨hk, htold⟩ := of_sampleCandidates_error herror
    refine ⟨k, e, ⟨⟨e, he, hk⟩, ?_⟩, he, htold⟩
    rintro i ⟨e', he', hunmet'⟩
    by_contra hlt
    obtain ⟨hi, rfl⟩ := List.getElem?_eq_some_iff.mp he'
    obtain ⟨slots, hslots⟩ := hfront _ (List.mem_map_of_mem (hbefore i hi (by omega)))
    exact (of_sampleCandidates_ok hslots).1 hunmet'
  · -- all candidates were found, so every expected sample is met
    obtain ⟨e, he, hunmet⟩ := hunmet
    obtain ⟨i, hi⟩ := List.getElem?_of_mem he
    have hmem := List.mem_map_of_mem (f := j.sampleCandidates actual.samples)
      (List.mk_mem_zipIdx_iff_getElem?.mpr hi)
    rw [Pick.settle_eq_ok_iff.mp hsettle] at hmem
    obtain ⟨slots, -, hslots⟩ := List.mem_map.mp hmem
    exact absurd hunmet (of_sampleCandidates_ok hslots.symm).1

end Picking

/-- **Two families match exactly if the expected samples can be bound** to actual ones that suit
them, no two to the same. A failure is told of an expected sample that no actual one suits, with
what is wrong with the last actual one. Any of several such samples may be told of, and it is the
first if the first failure is chosen. Only where every expected sample is suited by some actual one
a failure is told of the first that cannot be bound together with those before it. Neither the order
of the samples nor the choice of a failure counts for the verdict, and actual samples may be
added. -/
theorem family_iff_bound (j : Judge) (expected actual : Family) :
    (j.family expected actual = .ok () ↔
      ∃ f : Fin expected.samples.length → Fin actual.samples.length, Function.Injective f ∧
        ∀ i, j.sample expected.samples[i] actual.samples[f i] = .ok ()) ∧
    (∀ d, j.family expected actual = .error d →
      (∃ k e, expected.samples[k]? = some e ∧ j.Unmet actual.samples e ∧
        j.Told actual.samples k e d) ∨
      (∀ e ∈ expected.samples, ¬ j.Unmet actual.samples e) ∧
        ∃ k, IsLeast {i | i < expected.samples.length ∧
            ¬ Bindable j.Suits (expected.samples.take (i + 1)) actual.samples} k ∧
          d = .samplesTaken k) ∧
    (∀ k e, expected.samples[k]? = some e → j.Unmet actual.samples e → ∃ pick d,
      (j.picking pick).family expected actual = .error d ∧ j.Told actual.samples k e d) ∧
    (j.pick = .first → ∀ d, j.family expected actual = .error d →
      (∃ e ∈ expected.samples, j.Unmet actual.samples e) →
      ∃ k e, IsLeast {i | ∃ e', expected.samples[i]? = some e' ∧ j.Unmet actual.samples e'} k ∧
        expected.samples[k]? = some e ∧ j.Told actual.samples k e d) ∧
    (∀ pick, ∀ expected' actual' : Family, expected.samples.Perm expected'.samples →
      actual.samples.Perm actual'.samples →
      (j.family expected actual = .ok () ↔
        (j.picking pick).family expected' actual' = .ok ())) ∧
    (∀ actual' : Family, actual.samples.Subperm actual'.samples →
      j.family expected actual = .ok () → j.family expected actual' = .ok ()) := by
  refine ⟨family_eq_ok_iff_bindable, fun d hd => ?_,
    fun k e he hunmet => exists_pick_of_unmet he hunmet,
    fun hpick d hd hunmet => first_unmet_of_pick_first hpick hd hunmet,
    fun pick expected' actual' he ha => ?_, fun actual' ha hok => ?_⟩
  · have h := family_outcome j expected actual
    rw [hd] at h
    cases h with
    | unmet he hunmet htold => exact .inl ⟨_, _, he, hunmet, htold⟩
    | contested hmet hk => exact .inr ⟨hmet, _, hk, rfl⟩
  · rw [family_eq_ok_iff_bindable, family_eq_ok_iff_bindable, suits_picking,
      bindable_perm_iff he ha]
  · rw [family_eq_ok_iff_bindable] at hok ⊢
    exact Bindable.subperm hok ha

/-- A loose sample and a strict one. -/
def looseAndStrict : Family :=
  { name := "up", samples := [.plain { value := "notEmpty" }, .plain { value := "eq 1" }] }

/-- Two samples that are larger than all there are. -/
def tooLarge : Family :=
  { name := "up", samples := [.plain { value := "gt 7" }, .plain { value := "gt 8" }] }

/-- A family of plain samples. -/
def plainValues (values : List String) : Family :=
  { name := "up", samples := values.map fun value => .plain { value } }

/-- A loose sample yields to a strict one, also when there are more to choose from; and of two
samples that no actual one suits, the second may be told of as well as the first. -/
theorem family_iff_bound_loose :
    (plainValues ["1", "2"]).samples.Subperm (plainValues ["5", "2", "1"]).samples ∧
      family { env := fun _ => none } looseAndStrict (plainValues ["1", "2"]) = .ok () ∧
      family { env := fun _ => none } looseAndStrict (plainValues ["5", "2", "1"]) = .ok () ∧
    Unmet { env := fun _ => none } (plainValues ["5"]).samples (.plain { value := "gt 8" }) ∧
      (∃ pick d, (picking { env := fun _ => none } pick).family tooLarge (plainValues ["5"]) =
          .error d ∧
        Told { env := fun _ => none } (plainValues ["5"]).samples 1 (.plain { value := "gt 8" })
          d) ∧
      ∃ k e, IsLeast {i | ∃ e', tooLarge.samples[i]? = some e' ∧
          Unmet { env := fun _ => none } (plainValues ["5"]).samples e'} k ∧
        tooLarge.samples[k]? = some e ∧
        Told { env := fun _ => none } (plainValues ["5"]).samples k e
          (.sample 0 (.field ⟨"value", .mismatch .gt "7" "5"⟩)) := by
  have hsub : (plainValues ["1", "2"]).samples.Subperm (plainValues ["5", "2", "1"]).samples := by
    decide +kernel
  have hok : family { env := fun _ => none } looseAndStrict (plainValues ["1", "2"]) = .ok () := by
    decide +kernel
  have hunmet : Unmet { env := fun _ => none } (plainValues ["5"]).samples
      (.plain { value := "gt 8" }) := by
    decide +kernel
  have hfirst : family { env := fun _ => none } tooLarge (plainValues ["5"]) =
      .error (.sample 0 (.field ⟨"value", .mismatch .gt "7" "5"⟩)) := by
    decide +kernel
  obtain ⟨-, -, hany, hpick, -⟩ :=
    family_iff_bound { env := fun _ => none } tooLarge (plainValues ["5"])
  have hlonely : ∃ e ∈ tooLarge.samples,
      Unmet { env := fun _ => none } (plainValues ["5"]).samples e :=
    ⟨_, List.mem_cons_of_mem _ List.mem_cons_self, hunmet⟩
  exact ⟨hsub, hok, (family_iff_bound _ _ _).2.2.2.2.2 _ hsub hok, hunmet, hany 1 _ rfl hunmet,
    hpick rfl _ hfirst hlonely⟩

/-- **The first unmet sample need not be the one that is told of.** -/
theorem family_tells_later :
    Unmet { env := fun _ => none, pick := .last } (plainValues ["5"]).samples
      (.plain { value := "gt 7" }) ∧
    tooLarge.samples[0]? = some (.plain { value := "gt 7" }) ∧
    family { env := fun _ => none, pick := .last } tooLarge (plainValues ["5"]) =
      .error (.sample 1 (.field ⟨"value", .mismatch .gt "8" "5"⟩)) := by
  refine ⟨?_, rfl, ?_⟩
  · decide +kernel
  · decide +kernel

end Judge

end Assay
