import Assay.Proofs.Document.Reading
import Assay.Proofs.Exposition.Bookkeeping
import Assay.Proofs.Exposition.Values
import Assay.Proofs.Metric.Lookup

/-!
# Shapes of samples

The kind of a family settles the shape of its samples, whether the family was read from a document
or from a scrape, and only families of one kind are ever compared. So the complaint that two samples
differ in shape never comes up, neither by itself nor as the reason for another one.
-/

namespace Assay

open Assay.Metric

/-- A discrepancy and the reasons within it, from the outside in. -/
def Discrepancy.chain : Discrepancy → List Discrepancy
  | .span expected actual reason => .span expected actual reason :: reason.chain
  | .trace expected traceId cause => .trace expected traceId cause :: cause.chain
  | .family name cause => .family name cause :: cause.chain
  | .sample index reason => .sample index reason :: reason.chain
  | d => [d]

/-- Nothing in a discrepancy is about the shapes of samples. -/
def Discrepancy.ShapeFree (d : Discrepancy) : Prop :=
  ∀ expected actual, .shape expected actual ∉ d.chain

namespace Discrepancy

variable {d : Discrepancy}

theorem ShapeFree.family (h : d.ShapeFree) (name : String) : (family name d).ShapeFree := by
  simpa [ShapeFree, chain] using h

theorem ShapeFree.sample (h : d.ShapeFree) (index : Nat) : (sample index d).ShapeFree := by
  simpa [ShapeFree, chain] using h

end Discrepancy

/-! ## Shapes of samples that are read -/

namespace Metric

open Document (Node)

/-- Samples that fit one kind have one shape. -/
theorem Sample.shape_eq_of_fits {s s' : Sample} {kind : Kind} (h : s.fits kind = true)
    (h' : s'.fits kind = true) : s.shape = s'.shape := by
  cases s <;> cases s' <;> cases kind <;> simp_all [fits, shape]

theorem Sample.fits_of_read {kind : Kind} {n : Node} {s : Sample} (h : Sample.read kind n = .ok s) :
    s.fits kind = true := by
  cases kind <;>
    · obtain ⟨m, -, rfl⟩ := map_eq_ok h
      rfl

theorem Family.fits_of_readSamples {name : String} {kind : Kind} {entries : List (Json × Nat)}
    {samples : List Sample} (h : readSamples name kind entries = .ok samples) :
    ∀ s ∈ samples, s.fits kind = true := by
  induction entries generalizing samples with
  | nil =>
    cases h
    simp
  | cons entry entries ih =>
    obtain ⟨j, i⟩ := entry
    rw [readSamples] at h
    cases hread : Sample.read kind j.node with
    | error e => simp [hread] at h
    | ok s =>
      rw [hread] at h
      obtain ⟨more, hmore, h⟩ := bind_eq_ok h
      cases h
      exact List.forall_mem_cons.mpr ⟨Sample.fits_of_read hread, ih hmore⟩

/-- The samples of a family are read in the shape for its kind. -/
theorem Family.wellShaped_of_read {n : Node} {f : Family} (h : Family.read n = .ok f) :
    f.wellShaped = true := by
  obtain ⟨raw, -, h⟩ := bind_eq_ok h
  obtain ⟨name, -, h⟩ := bind_eq_ok h
  obtain ⟨samples, hsamples, h⟩ := bind_eq_ok h
  cases h
  exact List.all_eq_true.mpr (fits_of_readSamples hsamples)

theorem Family.wellShaped_of_items {n : Node} {fs : List Family}
    (h : Node.items Family.read n = .ok fs) : ∀ f ∈ fs, f.wellShaped = true := by
  intro f hf
  obtain ⟨m, hm⟩ := Node.exists_read_of_items h hf
  exact wellShaped_of_read hm

end Metric

theorem Exposition.wellShaped_of_parse {text : String} {fs : List Family}
    (h : Exposition.parse text = .ok fs) : ∀ f ∈ fs, f.wellShaped = true := by
  obtain ⟨s, lines, rfl, -, hgathered, -⟩ := gathered_of_parse h
  intro f hf
  obtain ⟨g, hg, rfl⟩ := List.mem_map.mp hf
  exact hgathered.wellKept.shaped g hg

namespace Load

variable {files : Files} {path : String} {fs : List Family}

theorem wellShaped_of_expectedMetrics (h : expectedMetrics files path = .ok fs) :
    ∀ f ∈ fs, f.wellShaped = true := by
  obtain ⟨text, -, hread, -⟩ := document_eq_ok_iff.mp h
  exact Family.wellShaped_of_items hread

/-- Actual metrics are well shaped, whether they are a document or a scrape. -/
theorem wellShaped_of_metrics {env : Environment} {source : String}
    (h : metrics env files source = .ok fs) : ∀ f ∈ fs, f.wellShaped = true := by
  unfold metrics at h
  split at h
  · cases h
  · obtain ⟨text, -, h⟩ := bind_eq_ok h
    unfold metricsOfText at h
    split at h
    · have hread := Document.Source.read_eq_ok_iff.mp (mapError_eq_ok_iff.mp h)
      exact Family.wellShaped_of_items hread.1
    · exact Exposition.wellShaped_of_parse (mapError_eq_ok_iff.mp h)

end Load

/-! ## Comparing samples of one shape -/

namespace Judge

open Discrepancy (ShapeFree)

variable {j : Judge} {d : Discrepancy} {name predicate v : String}

theorem shapeFree_of_value (h : j.value name predicate v = .error d) : d.ShapeFree := by
  unfold value at h
  cases hfield : j.field name predicate v with
  | ok u => simp [hfield, Except.mapError] at h
  | error e =>
    rw [hfield] at h
    cases h
    simp [ShapeFree, Discrepancy.chain]

theorem shapeFree_of_labelEntries {actual : Labels} {es : List (String × String)}
    (h : j.labelEntries actual es = .error d) : d.ShapeFree := by
  induction es with
  | nil => cases h
  | cons e es ih =>
    rcases bind_eq_error h with h | ⟨-, -, h⟩
    · exact shapeFree_of_value h
    · exact ih h

theorem shapeFree_of_labels {expected actual : Labels} (h : j.labels expected actual = .error d) :
    d.ShapeFree := by
  unfold labels at h
  split at h
  · cases h
    simp [ShapeFree, Discrepancy.chain]
  · exact shapeFree_of_labelEntries h

theorem shapeFree_of_keyedEntries {what : String} {actual : Dictionary String}
    {es : List (String × String)} (h : j.keyedEntries what actual es = .error d) :
    d.ShapeFree := by
  induction es with
  | nil => cases h
  | cons e es ih =>
    unfold keyedEntries at h
    split at h
    · cases h
      simp [ShapeFree, Discrepancy.chain]
    · rcases bind_eq_error h with h | ⟨-, -, h⟩
      · exact shapeFree_of_value h
      · exact ih h

/-- Summaries and histograms are compared in their labels, their count, their sum and their
entries. -/
theorem shapeFree_of_folded {expected actual : Labels} {count count' sum sum' what : String}
    {entries : Dictionary String} {es : List (String × String)}
    (h : ((j.labels expected actual).bind fun _ => (j.value "count" count count').bind fun _ =>
      (j.value "sum" sum sum').bind fun _ => j.keyedEntries what entries es) = .error d) :
    d.ShapeFree := by
  rcases bind_eq_error h with h | ⟨-, -, h⟩
  · exact shapeFree_of_labels h
  rcases bind_eq_error h with h | ⟨-, -, h⟩
  · exact shapeFree_of_value h
  rcases bind_eq_error h with h | ⟨-, -, h⟩
  · exact shapeFree_of_value h
  · exact shapeFree_of_keyedEntries h

/-- Samples that fit one kind are compared part by part. -/
theorem shapeFree_of_sample {expected actual : Sample} {kind : Kind}
    (hexpected : expected.fits kind = true) (hactual : actual.fits kind = true)
    (h : j.sample expected actual = .error d) : d.ShapeFree := by
  have hshape := Sample.shape_eq_of_fits hexpected hactual
  unfold sample at h
  split at h
  · rcases bind_eq_error h with h | ⟨-, -, h⟩
    · exact shapeFree_of_labels h
    · exact shapeFree_of_value h
  · exact shapeFree_of_folded h
  · exact shapeFree_of_folded h
  · -- of samples with one shape one of the cases before holds
    cases expected <;> cases actual <;> simp_all [Sample.shape]

/-! ## Comparing families of one kind -/

theorem shapeFree_of_trySamples {expected : Sample} {pool : List (Sample × Nat)}
    (hpool : ∀ p ∈ pool, ∀ d, j.sample expected p.1 = .error d → d.ShapeFree) {slots : List Nat}
    (h : j.trySamples expected pool = (slots, some d)) : d.ShapeFree := by
  induction pool generalizing slots with
  | nil => cases h
  | cons p pool ih =>
    obtain ⟨s, slot⟩ := p
    rw [List.forall_mem_cons] at hpool
    obtain ⟨hs, hpool⟩ := hpool
    rw [trySamples] at h
    cases htried : j.trySamples expected pool with
    | mk slots' last =>
      rw [htried] at h
      cases hsample : j.sample expected s with
      | ok u =>
        simp only [hsample, Prod.mk.injEq] at h
        exact ih hpool (htried.trans (by rw [h.2]))
      | error e =>
        simp only [hsample, Prod.mk.injEq] at h
        -- what is told is the reason for a later sample if there is one
        cases last with
        | none =>
          obtain rfl : e = d := by simpa using h.2
          exact hs e hsample
        | some d' =>
          obtain rfl : d' = d := by simpa using h.2
          exact ih hpool htried

theorem shapeFree_of_sampleCandidates {pool : List Sample} {expected : Sample × Nat}
    (hpool : ∀ s ∈ pool, ∀ d, j.sample expected.1 s = .error d → d.ShapeFree)
    (h : j.sampleCandidates pool expected = .error d) : d.ShapeFree := by
  unfold sampleCandidates at h
  split at h
  · rename_i reason htried
    cases h
    refine (shapeFree_of_trySamples (fun p hp => hpool p.1 ?_) htried).sample _
    exact List.mem_of_getElem? (List.mk_mem_zipIdx_iff_getElem?.mp hp)
  · cases h
    simp [ShapeFree, Discrepancy.chain]
  · cases h

theorem shapeFree_of_family {expected actual : Family}
    (hsamples : ∀ s ∈ expected.samples, ∀ s' ∈ actual.samples, ∀ d,
      j.sample s s' = .error d → d.ShapeFree)
    (h : j.family expected actual = .error d) : d.ShapeFree := by
  unfold family at h
  rcases bind_eq_error h with h | ⟨candidates, -, h⟩
  · obtain ⟨p, hp, herror⟩ := List.mem_map.mp (SideBySide.Pick.mem_of_settle h)
    exact shapeFree_of_sampleCandidates
      (hsamples p.1 (List.mem_of_getElem? (List.mk_mem_zipIdx_iff_getElem?.mp hp))) herror
  · split at h <;> cases h
    simp [ShapeFree, Discrepancy.chain]

/-- What a comparison of lists of families may tell. It names single families that are wrong only
if they have the name and the kind of an expected one. -/
inductive Complaint (j : Judge) (expected actual : List Family) : Discrepancy → Prop where
  | nothingExpected : Complaint j expected actual (.nothingExpected "metrics")
  | badPattern (pattern : String) : Complaint j expected actual (.badPattern pattern)
  | familyPresent (pattern found : String) :
    Complaint j expected actual (.familyPresent pattern found)
  | familyNotFound {e : Family} (he : e ∈ expected) :
    Complaint j expected actual (.familyNotFound e.name e.kind)
  | family {e a : Family} {cause : Discrepancy} (he : e ∈ expected) (ha : a ∈ actual)
    (hkey : a.key = e.key) (h : j.family e a = .error cause) :
    Complaint j expected actual (.family e.name cause)

theorem Complaint.mono {expected expected' actual actual' : List Family}
    (h : Complaint j expected actual d) (hexpected : expected ⊆ expected')
    (hactual : actual ⊆ actual') : Complaint j expected' actual' d := by
  cases h with
  | nothingExpected => exact .nothingExpected
  | badPattern pattern => exact .badPattern pattern
  | familyPresent pattern found => exact .familyPresent pattern found
  | familyNotFound he => exact .familyNotFound (hexpected he)
  | family he ha hkey h => exact .family (hexpected he) (hactual ha) hkey h

theorem complaint_of_absences {engine : Regex.Engine} {expected actual families : List Family}
    (h : absences engine families = .error d) : Complaint j expected actual d := by
  induction families with
  | nil => cases h
  | cons f rest ih =>
    unfold absences at h
    split at h
    · exact ih h
    · split at h
      · cases h
        exact .badPattern _
      · rcases bind_eq_error h with h | ⟨_, _, h⟩
        · exact ih h
        · cases h

theorem complaint_of_checkAbsent {expected actual : List Family} {entries : List Absence}
    (h : j.checkAbsent actual entries = .error d) : Complaint j expected actual d := by
  rcases bind_eq_error h with h | ⟨-, -, h⟩
  · obtain ⟨entry, -, h⟩ := List.mem_map.mp (SideBySide.Pick.mem_of_settle h)
    unfold absent at h
    split at h <;> cases h
    exact .familyPresent _ _
  · cases h

theorem complaint_of_bindFamilies {expected actual : List Family}
    (h : j.bindFamilies actual expected = .error d) : Complaint j expected actual d := by
  fun_induction bindFamilies j actual expected with
  | case1 => cases h
  | case2 e rest =>
    cases h
    exact .familyNotFound List.mem_cons_self
  | case3 a actual e rest hgt =>
    cases h
    exact .familyNotFound List.mem_cons_self
  | case4 a actual e rest hgt hkey ih =>
    rcases bind_eq_error h with h | ⟨-, -, h⟩
    · cases hfamily : j.family e a with
      | ok u => simp [hfamily, Except.mapError] at h
      | error cause =>
        rw [hfamily] at h
        cases h
        exact .family List.mem_cons_self List.mem_cons_self (Prod.ext hkey.1 hkey.2) hfamily
    · exact (ih h).mono (List.subset_cons_self _ _) (List.subset_cons_self _ _)
  | case5 a actual e rest hgt hkey ih =>
    exact (ih h).mono (List.Subset.refl _) (List.subset_cons_self _ _)

theorem complaint_of_metrics {expected actual : List Family}
    (h : j.metrics expected actual = .error d) : Complaint j expected actual d := by
  unfold metrics at h
  split at h
  · cases h
    exact .nothingExpected
  rcases bind_eq_error h with h | ⟨entries, -, h⟩
  · exact complaint_of_absences h
  rcases bind_eq_error h with h | ⟨-, -, h⟩
  · exact complaint_of_checkAbsent h
  · refine (complaint_of_bindFamilies h).mono (fun e he => ?_) fun a ha => ?_
    · exact List.mem_of_mem_filter ((byName_perm _).mem_iff.mp he)
    · exact (byName_perm _).mem_iff.mp ha

/-- **Samples of different shapes are never compared**, if the expected families are read from a
document and the actual ones from a document or a scrape. Every sample has the shape for the kind
of its family, what is told of two families is told of two of one name and one kind, and whatever
is told of these or of their samples, nothing in it is about shapes. -/
theorem shape_never_reported (j : Judge) {files files' : Files} {env : Environment}
    {path source : String} {expected actual : List Family}
    (hexpected : Load.expectedMetrics files path = .ok expected)
    (hactual : Load.metrics env files' source = .ok actual ∨
      ∃ scrape, Exposition.parse scrape = .ok actual) :
    (∀ f ∈ expected ++ actual, ∀ s ∈ f.samples, s.fits f.kind = true) ∧
    (∀ e ∈ expected, ∀ a ∈ actual, e.kind = a.kind →
      ∀ s ∈ e.samples, ∀ s' ∈ a.samples, ∀ d, j.sample s s' = .error d → d.ShapeFree) ∧
    ∀ d, j.metrics expected actual = .error d → Complaint j expected actual d ∧ d.ShapeFree := by
  have hfits : ∀ f ∈ expected ++ actual, ∀ s ∈ f.samples, s.fits f.kind = true := by
    intro f hf
    rw [← List.all_eq_true]
    rcases List.mem_append.mp hf with hf | hf
    · exact Load.wellShaped_of_expectedMetrics hexpected f hf
    · rcases hactual with hactual | ⟨scrape, hactual⟩
      · exact Load.wellShaped_of_metrics hactual f hf
      · exact Exposition.wellShaped_of_parse hactual f hf
  have hsample : ∀ e ∈ expected, ∀ a ∈ actual, e.kind = a.kind →
      ∀ s ∈ e.samples, ∀ s' ∈ a.samples, ∀ d, j.sample s s' = .error d → d.ShapeFree := by
    intro e he a ha hkind s hs s' hs' d hd
    have hs := hfits e (List.mem_append_left _ he) s hs
    have hs' := hfits a (List.mem_append_right _ ha) s' hs'
    exact shapeFree_of_sample (hkind ▸ hs) hs' hd
  refine ⟨hfits, hsample, fun d hd => ?_⟩
  have hcomplaint := complaint_of_metrics hd
  refine ⟨hcomplaint, ?_⟩
  cases hcomplaint with
  | nothingExpected | badPattern | familyPresent | familyNotFound =>
    simp [ShapeFree, Discrepancy.chain]
  | family he ha hkey h =>
    have hkind := (congrArg Prod.snd hkey).symm
    exact (shapeFree_of_family (hsample _ he _ ha hkind) h).family _

/-- A document that expects a summary with a sum of 1, and a scrape in which the sum is 2. -/
def sumFiles : Files :=
  { files := [(["e.json"], .text
      "[\x7b\"name\":\"s\",\"type\":\"summary\",\"metrics\":[\x7b\"sum\":1\x7d]\x7d]"),
    (["m.txt"], .text "# TYPE s summary\ns_sum 2\nup 1\n")] }

/-- What the document expects. -/
def sumExpected : List Family :=
  [{ name := "s", kind := .summary, samples := [.summary { sum := "1" }] }]

/-- What the scrape holds. -/
def sumActual : List Family :=
  [{ name := "s", kind := .summary, samples := [.summary { sum := "2" }] },
    { name := "up", samples := [.plain { value := "1" }] }]

theorem shape_never_reported_sum :
    Load.expectedMetrics sumFiles "e.json" = .ok sumExpected ∧
    Load.metrics (fun _ => none) sumFiles "m.txt" = .ok sumActual ∧
    ∃ d, metrics { env := fun _ => none } sumExpected sumActual = .error d ∧ d.ShapeFree := by
  have hexpected : Load.expectedMetrics sumFiles "e.json" = .ok sumExpected := by decide +kernel
  have hactual : Load.metrics (fun _ => none) sumFiles "m.txt" = .ok sumActual := by decide +kernel
  have hsorted : Ascending sumExpected := by simp [Ascending, sumExpected]
  have hsorted' : Ascending sumActual := List.pairwise_pair.mpr (by decide +kernel)
  obtain ⟨d, hd⟩ : ∃ d, metrics { env := fun _ => none } sumExpected sumActual = .error d := by
    rw [metrics_of_ascending (by decide) (by decide +kernel) hsorted hsorted']
    exact exists_error_of_ne_ok (by decide +kernel)
  obtain ⟨-, -, hfree⟩ := shape_never_reported _ hexpected (.inl hactual)
  exact ⟨hexpected, hactual, d, hd, (hfree d hd).2⟩

end Judge

end Assay
