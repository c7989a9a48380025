import Assay.Proofs.Exposition.Values
import Assay.Proofs.Metric.Order
import Assay.Proofs.Metric.Samples

/-!
# Literal families

Families whose texts stand for themselves are met by themselves, in whatever order the families and
their samples are given, as long as their names are different and give no patterns. The families of
an exposition text are such families as soon as its labels are literal: numbers are literal, and so
is the empty text of a sum or count that is missing.
-/

namespace Assay

open Assay.Metric

/-- A family with its samples in another order. Its help text does not count. -/
structure Metric.Family.Reordered (f g : Family) : Prop where
  name : g.name = f.name
  kind : g.kind = f.kind
  samples : f.samples.Perm g.samples

namespace Judge

open List (Forall₂)
open Exposition (SampleNumeric IsValueText)

variable {env : Environment} {engine : Regex.Engine} {pick : SideBySide.Pick Discrepancy}

/-! ## A sample and itself -/

theorem entriesHold_self {d : Dictionary String}
    (h : ∀ e ∈ d.entries, Predicate.IsLiteral e.2) :
    ∀ e ∈ d.entries, EntryHolds { env, engine, pick } d e.1 e.2 :=
  fun e he => entryHolds_of_mem he (accepts_self (h e he))

theorem labelsHold_self {d : Labels} (h : ∀ e ∈ d.entries, Predicate.IsLiteral e.2) :
    LabelsHold { env, engine, pick } d d := by
  refine ⟨Nat.le_refl _, fun e he => ?_⟩
  rw [(d.mem_entries_iff e).mp he, Option.getD_some]
  exact accepts_self (h e he)

/-- **A literal sample satisfies itself.** -/
theorem sampleHolds_self {s : Sample} (h : ∀ text ∈ s.texts, Predicate.IsLiteral text) :
    SampleHolds { env, engine, pick } s s := by
  cases s with
  | plain s =>
    simp only [Sample.texts, List.forall_mem_cons, List.forall_mem_map] at h
    obtain ⟨hvalue, hlabels⟩ := h
    exact .plain (labelsHold_self hlabels) (accepts_self hvalue)
  | summary s =>
    simp only [Sample.texts, List.forall_mem_cons, List.forall_mem_map, List.forall_mem_append] at h
    obtain ⟨hcount, hsum, hlabels, hquantiles⟩ := h
    exact .summary (labelsHold_self hlabels) (accepts_self hcount) (accepts_self hsum)
      (entriesHold_self hquantiles)
  | histogram s =>
    simp only [Sample.texts, List.forall_mem_cons, List.forall_mem_map, List.forall_mem_append] at h
    obtain ⟨hcount, hsum, hlabels, hbuckets⟩ := h
    exact .histogram (labelsHold_self hlabels) (accepts_self hcount)
      (accepts_self hsum) (entriesHold_self hbuckets)

/-! ## Families -/

/-- The order of the samples does not count. -/
theorem meets_of_reordered {f g : Family}
    (hliteral : ∀ s ∈ f.samples, ∀ text ∈ s.texts, Predicate.IsLiteral text)
    (h : f.Reordered g) : Meets { env, engine, pick } f g where
  name := h.name
  kind := h.kind
  samples := by
    have hself : Bindable (SampleHolds { env, engine, pick }) f.samples f.samples :=
      bindable_self fun s hs => sampleHolds_self (hliteral s hs)
    exact family_eq_ok_iff.mpr (hself.perm (.refl _) h.samples)

theorem required_eq_self {fs : List Family} (h : ∀ f ∈ fs, absencePattern? f = none) :
    required fs = fs :=
  List.filter_eq_self.mpr fun f hf => by rw [h f hf, Option.isNone_none]

theorem map_name_of_reordered {fs gs : List Family} (h : Forall₂ Family.Reordered fs gs) :
    gs.map Family.name = fs.map Family.name := by
  induction h with
  | nil => rfl
  | cons h _ ih => rw [List.map_cons, List.map_cons, h.name, ih]

theorem exists_reordered {fs gs : List Family} (h : Forall₂ Family.Reordered fs gs) {f : Family}
    (hf : f ∈ fs) : ∃ g ∈ gs, f.Reordered g := by
  obtain ⟨i, hi, rfl⟩ := List.getElem_of_mem hf
  have hi' : i < gs.length := h.length_eq ▸ hi
  exact ⟨gs[i], List.getElem_mem hi', (List.forall₂_iff_get.mp h).2 i hi hi'⟩

/-- **Literal families satisfy themselves**, however the families and their samples are
reordered. -/
theorem metrics_of_reordered {fs gs fs' : List Family} (hne : fs ≠ [])
    (hnames : (fs.map Family.name).Nodup) (hrequired : ∀ f ∈ fs, absencePattern? f = none)
    (hliteral : ∀ f ∈ fs, ∀ s ∈ f.samples, ∀ text ∈ s.texts, Predicate.IsLiteral text)
    (hsamples : Forall₂ Family.Reordered fs gs) (hfamilies : gs.Perm fs') :
    metrics { env, engine, pick } fs fs' = .ok () := by
  have hself : required fs = fs := required_eq_self hrequired
  have hnames' : (fs'.map Family.name).Nodup := by
    rwa [← (hfamilies.map _).nodup_iff, map_name_of_reordered hsamples]
  -- with different names the kinds need not tell families apart
  have hkeys : (fs'.map Family.key).Nodup := by
    refine List.Nodup.of_map Prod.fst ?_
    rwa [List.map_map]
  have hsatisfied : Satisfied { env, engine, pick } fs fs' := by
    refine ⟨hne, fun f hf pattern hpattern => ?_, fun f hf => ?_⟩
    · rw [hrequired f hf] at hpattern
      cases hpattern
    · rw [hself] at hf
      obtain ⟨g, hg, hreordered⟩ := exists_reordered hsamples hf
      exact ⟨g, hfamilies.mem_iff.mp hg, meets_of_reordered (hliteral f hf) hreordered⟩
  exact hsatisfied.metrics_eq_ok hkeys (by rwa [hself])

/-! ## Families of a text -/

/-- A name without blanks gives no pattern. -/
theorem absencePattern?_eq_none {f : Family} (h : ∀ c ∈ f.name.toList, Text.isBlank c = false) :
    absencePattern? f = none := by
  have hcut : Text.cut (· = ' ') f.name.toList = none := by
    refine Text.cut_eq_none fun c hc => ?_
    rw [decide_eq_false_iff_not]
    rintro rfl
    exact absurd (h ' ' hc) (by decide)
  rw [absencePattern?, hcut]

/-- No number is a predicate. -/
theorem isLiteral_of_isValueText {v : String} (h : IsValueText v) : Predicate.IsLiteral v := by
  obtain ⟨x, hx⟩ := Exposition.isValue_iff.mp h.1
  exact Predicate.isLiteral_of_number h.isWord hx

theorem isLiteral_of_total {v : String} (h : v ≠ "" → IsValueText v) : Predicate.IsLiteral v := by
  by_cases hv : v = ""
  · subst hv
    decide
  · exact isLiteral_of_isValueText (h hv)

theorem texts_isLiteral {s : Sample} (h : SampleNumeric s)
    (hlabels : ∀ e ∈ s.labels.entries, Predicate.IsLiteral e.2) :
    ∀ text ∈ s.texts, Predicate.IsLiteral text := by
  cases s with
  | plain s =>
    simp only [Sample.texts, List.forall_mem_cons, List.forall_mem_map]
    exact ⟨isLiteral_of_isValueText h, hlabels⟩
  | summary s | histogram s =>
    simp only [Sample.texts, List.forall_mem_cons, List.forall_mem_map, List.forall_mem_append]
    exact ⟨isLiteral_of_total h.count, isLiteral_of_total h.sum, hlabels,
      fun e he => isLiteral_of_isValueText (h.entries e he)⟩

/-- **A scrape satisfies itself.** The families of a text whose labels are literal are met by
themselves, however the families and the samples of each of them are reordered. -/
theorem metrics_scrape (env : Environment) (engine : Regex.Engine)
    (pick : SideBySide.Pick Discrepancy) {text : String} {fs gs fs' : List Family}
    (hparse : Exposition.parse text = .ok fs) (hne : fs ≠ [])
    (hlabels : ∀ f ∈ fs, ∀ s ∈ f.samples, ∀ e ∈ s.labels.entries, Predicate.IsLiteral e.2)
    (hsamples : Forall₂ Family.Reordered fs gs) (hfamilies : gs.Perm fs') :
    metrics { env, engine, pick } fs fs' = .ok () := by
  have hsound := Exposition.sound_of_parse hparse
  refine metrics_of_reordered hne hsound.distinct (fun f hf => ?_) (fun f hf s hs => ?_)
    hsamples hfamilies
  · exact absencePattern?_eq_none (hsound.names f hf)
  · exact texts_isLiteral (hsound.numeric f hf s hs) (hlabels f hf s hs)

/-- A text in which the summary has a sample without sum and count, and one without quantiles. -/
def literalText : String :=
  "# TYPE t summary\nt\x7bquantile=\"0.5\"\x7d 1\nt_count\x7bzone=\"b\"\x7d 4\n" ++
    "up\x7bjob=\"a b\"\x7d 1\nup\x7bjob=\"c\"\x7d NaN 7\n"

/-- The families of that text. -/
def literalFamilies : List Family :=
  [{ name := "t", kind := .summary,
     samples := [.summary { quantiles := .ofList [("0.5", "1")] },
       .summary { labels := .ofList [("zone", "b")], count := "4" }] },
   { name := "up",
     samples := [.plain { labels := .ofList [("job", "a b")], value := "1" },
       .plain { labels := .ofList [("job", "c")], timestamp := some "7", value := "NaN" }] }]

/-- The same families, with the samples of each in opposite order. -/
def turnedFamilies : List Family :=
  literalFamilies.map fun f => { f with samples := f.samples.reverse }

theorem metrics_scrape_literal :
    Exposition.parse literalText = .ok literalFamilies ∧ literalFamilies ≠ [] ∧
    (∀ f ∈ literalFamilies, ∀ s ∈ f.samples, ∀ e ∈ s.labels.entries,
      Predicate.IsLiteral e.2) ∧
    Forall₂ Family.Reordered literalFamilies turnedFamilies ∧
    turnedFamilies.Perm turnedFamilies.reverse ∧
    metrics { env := fun _ => none } literalFamilies turnedFamilies.reverse = .ok () := by
  have hparse : Exposition.parse literalText = .ok literalFamilies := by decide +kernel
  have hne : literalFamilies ≠ [] := List.cons_ne_nil _ _
  have hlabels : ∀ f ∈ literalFamilies, ∀ s ∈ f.samples, ∀ e ∈ s.labels.entries,
      Predicate.IsLiteral e.2 := by decide +kernel
  have hsamples : Forall₂ Family.Reordered literalFamilies turnedFamilies := by
    refine List.forall₂_map_right_iff.mpr (List.forall₂_same.mpr fun f _ => ?_)
    exact ⟨rfl, rfl, (List.reverse_perm _).symm⟩
  have hfamilies : turnedFamilies.Perm turnedFamilies.reverse := (List.reverse_perm _).symm
  exact ⟨hparse, hne, hlabels, hsamples, hfamilies,
    metrics_scrape _ .standard .first hparse hne hlabels hsamples hfamilies⟩

end Judge

end Assay
