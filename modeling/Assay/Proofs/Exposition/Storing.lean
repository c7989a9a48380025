import Assay.Proofs.Exposition.Holds
import Assay.Proofs.Grouping

/-!
# Storing a line

A scrape finds the family of a line and its sample there by positions that it keeps. As long as
these are where families and samples really stand, storing a line changes the first family of its
name, or adds one, and in a folded family the first sample of its labels, or adds one.
-/

namespace Assay

open Assay.Metric

namespace Exposition

variable {s s' : Scrape} {l : Line}

/-! ## Where things stand -/

/-- A scrape whose positions are those of its families and folded samples. -/
structure Consistent (s : Scrape) : Prop where
  kinds : ∀ f ∈ s.families, f.kind = s.kindOf f.name
  positions : ∀ name, s.positions.get? name = (s.families.map Family.name).idxOf? name
  series : ∀ i labels, s.series.lookup (i, labels) = s.families[i]?.bind fun f =>
    if isFolded f.kind then (f.samples.map Sample.labels).idxOf? labels else none

theorem consistent_empty : Consistent {} where
  kinds _ h := by cases h
  positions _ := rfl
  series _ _ := rfl

theorem kindOf_eq {t : Scrape} (h : t.types = s.types) (name : String) :
    t.kindOf name = s.kindOf name := by
  rw [Scrape.kindOf, Scrape.kindOf, Scrape.declared?, Scrape.declared?, h]

theorem families_modifySamples {i : Nat} {f : Family} (hf : s.families[i]? = some f)
    (change : List Sample → List Sample) :
    (s.modifySamples i change).families =
      s.families.set i { f with samples := change f.samples } := by
  rw [Scrape.modifySamples]
  show s.families.modify i _ = _
  rw [List.modify_eq_set_getElem?, hf]
  rfl

theorem samplesAt_eq {i : Nat} {f : Family} (hf : s.families[i]? = some f) :
    s.samplesAt i = f.samples := by
  rw [Scrape.samplesAt, hf]
  rfl

/-- Only the samples of one family change, and where they stand is kept up to date. -/
theorem Consistent.set_samples (h : Consistent s) {i : Nat} {f : Family}
    (hf : s.families[i]? = some f) {ms : List Sample}
    (hfamilies : s'.families = s.families.set i { f with samples := ms })
    (htypes : s'.types = s.types) (hpositions : s'.positions = s.positions)
    (hothers : ∀ i' labels, i' ≠ i → s'.series.lookup (i', labels) = s.series.lookup (i', labels))
    (hown : ∀ labels, s'.series.lookup (i, labels) =
      if isFolded f.kind then (ms.map Sample.labels).idxOf? labels else none) :
    Consistent s' where
  kinds g hg := by
    rw [hfamilies] at hg
    rw [kindOf_eq htypes]
    rcases List.mem_or_eq_of_mem_set hg with hg | rfl
    · exact h.kinds g hg
    · exact h.kinds f (List.mem_of_getElem? hf)
  positions name := by
    have hnames : s'.families.map Family.name = s.families.map Family.name := by
      rw [hfamilies]
      exact map_set_of_eq hf rfl
    rw [hpositions, h.positions, hnames]
  series i' labels := by
    rw [hfamilies]
    by_cases hi : i' = i
    · subst hi
      have hlt := (List.getElem?_eq_some_iff.mp hf).1
      rw [hown, List.getElem?_set_self hlt]
      rfl
    · rw [hothers i' labels hi, h.series, List.getElem?_set_ne (Ne.symm hi)]

theorem Consistent.own_series (h : Consistent s) {i : Nat} {f : Family}
    (hf : s.families[i]? = some f) (labels : Labels) : s.series.lookup (i, labels) =
      if isFolded f.kind then (f.samples.map Sample.labels).idxOf? labels else none := by
  rw [h.series, hf]
  rfl

/-! ## Finding the family and the sample of a line -/

/-- A family that has no line yet. -/
def newFamily (s : Scrape) (name : String) : Family :=
  { name, kind := s.kindOf name }

/-- The scrape in which a family of a name has been found or added. -/
structure Located (s : Scrape) (name : String) (t : Scrape) (i : Nat) (f : Family) : Prop where
  consistent : Consistent t
  types : t.types = s.types
  help : t.help = s.help
  get : t.families[i]? = some f
  name_eq : f.name = name
  upsert_eq : ∀ change, upsert Family.name name (newFamily s name) change s.families =
    t.families.set i (change f)

theorem Consistent.locate (h : Consistent s) (name : String) :
    ∃ t i f, s.locate name = (t, i) ∧ Located s name t i f := by
  unfold Scrape.locate
  rw [h.positions]
  cases hi : (s.families.map Family.name).idxOf? name with
  | some i =>
    obtain ⟨f, hf, hname⟩ := getElem?_of_idxOf? hi
    exact ⟨s, i, f, rfl, h, rfl, rfl, hf, hname, fun change => upsert_of_some hi hf _ change⟩
  | none =>
    -- the new family stands behind the others, and no sample of it has a position
    refine ⟨_, _, newFamily s name, rfl, ⟨fun g hg => ?_, fun a => ?_, fun i labels => ?_⟩, rfl, rfl,
      by simp [newFamily], rfl, fun change => upsert_of_none hi _ change⟩
    · rcases List.mem_append.mp hg with hg | hg
      · exact h.kinds g hg
      · rw [List.mem_singleton.mp hg]
        rfl
    · rw [Dictionary.get?_insert, List.map_append, List.map_singleton, idxOf?_concat, ← h.positions,
        List.length_map]
      by_cases ha : a = name
      · subst ha
        rw [h.positions, hi]
        simp
      · simp [ha, Ne.symm ha]
    · rw [h.series, List.getElem?_append]
      split
      · rfl
      · rename_i hge
        rw [List.getElem?_eq_none (Nat.le_of_not_lt hge)]
        cases i - s.families.length with
        | zero => simp
        | succ n => rfl

/-- The scrape in which a sample for some labels has been found or added in a folded family. -/
structure Slotted (s : Scrape) (i : Nat) (f : Family) (labels : Labels) (t : Scrape) (k : Nat)
    (ms : List Sample) (m : Sample) : Prop where
  consistent : Consistent t
  types : t.types = s.types
  help : t.help = s.help
  get_family : t.families[i]? = some { f with samples := ms }
  set_eq : ∀ g, t.families.set i g = s.families.set i g
  get : ms[k]? = some m
  labels_eq : m.labels = labels
  upsert_eq : ∀ change,
    upsert Sample.labels labels (Scrape.blankSample f.kind labels) change f.samples =
      ms.set k (change m)

theorem labels_blankSample (kind : Kind) (labels : Labels) :
    (Scrape.blankSample kind labels).labels = labels := by
  unfold Scrape.blankSample
  split <;> rfl

theorem Consistent.slot (h : Consistent s) {i : Nat} {f : Family} (hf : s.families[i]? = some f)
    (hfolded : isFolded f.kind = true) (labels : Labels) :
    ∃ t k ms m, s.slot i f.kind labels = (t, k) ∧ Slotted s i f labels t k ms m := by
  have hown := fun labels' => h.own_series hf labels'
  simp only [hfolded, if_true] at hown
  unfold Scrape.slot
  rw [hown]
  cases hk : (f.samples.map Sample.labels).idxOf? labels with
  | some k =>
    obtain ⟨m, hm, hlabels⟩ := getElem?_of_idxOf? hk
    exact ⟨s, k, f.samples, m, rfl, h, rfl, rfl, hf, fun _ => rfl, hm, hlabels,
      fun change => upsert_of_some hk hm _ change⟩
  | none =>
    -- a blank sample goes behind the others, and its position is kept
    have hfamilies := families_modifySamples hf (· ++ [Scrape.blankSample f.kind labels])
    have hlt := (List.getElem?_eq_some_iff.mp hf).1
    refine ⟨_, _, f.samples ++ [Scrape.blankSample f.kind labels], _, rfl, ?_, rfl, rfl, ?_, ?_, ?_,
      labels_blankSample f.kind labels, fun change => ?_⟩
    · refine h.set_samples hf hfamilies rfl rfl (fun i' labels' hi => ?_) fun labels' => ?_
      · have hne : ((i', labels') == (i, labels)) = false := by simp [hi]
        rw [List.lookup_cons, hne]
      · rw [List.lookup_cons, hown, hfolded, if_pos rfl, List.map_append, List.map_singleton,
          labels_blankSample, idxOf?_concat, samplesAt_eq hf, List.length_map]
        by_cases hlabels : labels' = labels
        · subst hlabels
          simp [hk]
        · have hne : ((i, labels') == (i, labels)) = false := by simp [hlabels]
          rw [hne, if_neg (Ne.symm hlabels), Option.or_none]
    · rw [hfamilies, List.getElem?_set_self hlt]
    · intro g
      rw [hfamilies, List.set_set]
    · rw [samplesAt_eq hf]
      simp
    · rw [samplesAt_eq hf]
      exact upsert_of_none hk _ change

/-! ## Storing -/

/-- A part is put into a sample. One that the sample has no place for changes nothing. -/
def put (l : Line) (m : Sample) : Sample :=
  match Scrape.fill m l with
  | .ok filled => filled
  | .error _ => m

/-- The sample of a line that gives all of it. -/
def Line.plain (l : Line) : Sample :=
  .plain ⟨l.labels, l.timestamp, l.value⟩

/-- What a line does to the samples of its family. -/
def store (kind : Kind) (l : Line) (ms : List Sample) : List Sample :=
  if l.part = .plain then ms ++ [l.plain]
  else upsert Sample.labels l.labels (Scrape.blankSample kind l.labels) (put l) ms

/-- A scrape in which a line has been stored. -/
structure Stored (s : Scrape) (l : Line) (s' : Scrape) : Prop where
  consistent : Consistent s'
  types : s'.types = s.types
  help : s'.help = s.help
  families : s'.families =
    upsert Family.name l.family (newFamily s l.family)
      (fun f => { f with samples := store (s.kindOf l.family) l f.samples }) s.families

theorem isFolded_of_belongs {kind : Kind} {part : Part} (h : belongs kind part = true) :
    isFolded kind = decide (part ≠ .plain) := by
  cases part <;> cases kind <;> simp_all [belongs, isFolded]

section Record

variable {t : Scrape} {i : Nat} {f : Family}

/-- A sample of its own goes behind the others. No position is kept for it. -/
theorem Located.record_plain (ht : Located s l.family t i f) (hlocate : s.locate l.family = (t, i))
    (hplain : isFolded f.kind = false) (hpart : l.part = .plain) (hrecord : s.record l = .ok s') :
    Stored s l s' := by
  simp only [Scrape.record, hlocate] at hrecord
  rw [if_pos hpart] at hrecord
  cases hrecord
  have hfamilies := families_modifySamples ht.get (· ++ [l.plain])
  refine ⟨?_, ht.types, ht.help, ?_⟩
  · refine ht.consistent.set_samples ht.get hfamilies rfl rfl (fun _ _ _ => rfl) fun labels => ?_
    have hown := ht.consistent.own_series ht.get labels
    rw [hplain] at hown ⊢
    exact hown
  · rw [ht.upsert_eq]
    simp only [store, if_pos hpart]
    exact hfamilies

/-- A part goes into the sample of its labels. -/
theorem Located.record_part (ht : Located s l.family t i f) (hlocate : s.locate l.family = (t, i))
    (hkind : f.kind = s.kindOf l.family) (hfolded : isFolded f.kind = true)
    (hpart : l.part ≠ .plain) (hrecord : s.record l = .ok s') : Stored s l s' := by
  obtain ⟨u, k, ms, m, hslot, hu⟩ := ht.consistent.slot ht.get hfolded l.labels
  simp only [Scrape.record, hlocate] at hrecord
  rw [if_neg hpart, ← hkind] at hrecord
  simp only [hslot, samplesAt_eq hu.get_family, hu.get] at hrecord
  cases hfill : Scrape.fill m l with
  | error e =>
    rw [hfill] at hrecord
    cases hrecord
  | ok filled =>
    rw [hfill] at hrecord
    cases hrecord
    have hfamilies := families_modifySamples hu.get_family (·.set k filled)
    refine ⟨?_, hu.types.trans ht.types, hu.help.trans ht.help, ?_⟩
    · refine hu.consistent.set_samples hu.get_family hfamilies rfl rfl (fun _ _ _ => rfl)
        fun labels => ?_
      rw [map_set_of_eq hu.get (fill_labels hfill)]
      exact hu.consistent.own_series hu.get_family labels
    · rw [ht.upsert_eq, hfamilies, hu.set_eq]
      simp only [store, if_neg hpart, ← hkind, hu.upsert_eq, put, hfill]

end Record

/-- **A line is stored** with the first family of its name and, unless it is a sample of its own,
with the first sample of its labels there. -/
theorem Consistent.record (h : Consistent s)
    (hbelongs : belongs (s.kindOf l.family) l.part = true) (hrecord : s.record l = .ok s') :
    Stored s l s' := by
  obtain ⟨t, i, f, hlocate, ht⟩ := h.locate l.family
  have hkind : f.kind = s.kindOf l.family := by
    rw [ht.consistent.kinds f (List.mem_of_getElem? ht.get), ht.name_eq, kindOf_eq ht.types]
  have hfolded := isFolded_of_belongs hbelongs
  rw [← hkind] at hfolded
  by_cases hpart : l.part = .plain
  · have hplain : isFolded f.kind = false := by simpa [hpart] using hfolded
    exact ht.record_plain hlocate hplain hpart hrecord
  · have hfolded : isFolded f.kind = true := by simpa [hpart] using hfolded
    exact ht.record_part hlocate hkind hfolded hpart hrecord

end Exposition

end Assay
