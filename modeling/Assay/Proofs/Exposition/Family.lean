import Assay.Proofs.Exposition.Writer
import Mathlib.Tactic.MkIffOfInductiveProp

/-!
# Writing families

Which families can be written, and how. A summary and a histogram are written in the same way, but
for the label that tells their entries apart and the ending of the series that holds them, so both
are seen as one kind of folded sample. Storing the lines of a folded sample one after the other,
from a blank sample on, gives the sample back.
-/

namespace Assay

open Assay.Metric

namespace Exposition

/-- Whatever part is stored, the labels stay. -/
theorem fill_labels {m m' : Sample} {l : Line} (h : Scrape.fill m l = .ok m') :
    m'.labels = m.labels := by
  unfold Scrape.fill at h
  split at h <;> first | (cases h; rfl) | cases h

/-! ## Folded samples -/

/-- A summary or a histogram sample, without saying which. -/
structure Folded where
  labels : Labels
  timestamp : Option String
  /-- The quantiles or the buckets. -/
  entries : Dictionary String
  sum : String
  count : String

/-- Whether the samples of a kind are made up of several lines. -/
def isFolded (kind : Kind) : Bool :=
  kind = .summary || kind = .histogram

/-- The label that tells the entries of a folded sample apart. -/
def entryLabel (kind : Kind) : String :=
  if kind = .summary then "quantile" else "le"

/-- The part that an entry of a folded sample is. -/
def entryPart (kind : Kind) (key : String) : Part :=
  if kind = .summary then .quantile key else .bucket key

namespace Folded

/-- The sample, once its kind is known. -/
def sample (kind : Kind) (m : Folded) : Sample :=
  if kind = .summary then .summary ⟨m.labels, m.timestamp, m.entries, m.count, m.sum⟩
  else .histogram ⟨m.labels, m.timestamp, m.entries, m.count, m.sum⟩

/-- The lines of the entries. -/
def entryLines (kind : Kind) (name : String) (m : Folded) : List Line :=
  m.entries.entries.map fun e => ⟨name, entryPart kind e.1, m.labels, e.2, m.timestamp⟩

/-- The line of a sum or count, which is left out if there is none. -/
def totalLine (name : String) (part : Part) (labels : Labels) (value : String) : List Line :=
  if value = "" then [] else [⟨name, part, labels, value, none⟩]

/-- All lines. -/
def lines (kind : Kind) (name : String) (m : Folded) : List Line :=
  m.entryLines kind name ++ totalLine name .sum m.labels m.sum ++
    totalLine name .count m.labels m.count

/-- A folded sample that can be written. Its timestamp stands on the lines of its entries. -/
@[mk_iff]
structure Writable (kind : Kind) (m : Folded) : Prop where
  names : ∀ e ∈ m.labels.entries, isLabelName e.1.toList = true
  free : m.labels.get? (entryLabel kind) = none
  entries : ∀ e ∈ m.entries.entries, IsValueText e.2
  sum : m.sum ≠ "" → IsValueText m.sum
  count : m.count ≠ "" → IsValueText m.count
  timestamp : ∀ t ∈ m.timestamp, IsTimestamp t ∧ m.entries ≠ ∅
  nonempty : m.entries ≠ ∅ ∨ m.sum ≠ "" ∨ m.count ≠ ""

instance (kind : Kind) (m : Folded) : Decidable (m.Writable kind) :=
  decidable_of_iff' _ (writable_iff kind m)

@[simp]
theorem labels_sample (kind : Kind) (m : Folded) : (m.sample kind).labels = m.labels := by
  unfold sample
  split <;> rfl

/-- What has been read of a folded sample before its first line. -/
def blank (labels : Labels) : Folded :=
  ⟨labels, none, ∅, "", ""⟩

@[simp]
theorem labels_blank (labels : Labels) : (blank labels).labels = labels := rfl

/-! ## Storing the lines of a folded sample -/

theorem fill_entry (kind : Kind) (m : Folded) (name key value : String) (labels : Labels)
    (timestamp : Option String) :
    Scrape.fill (m.sample kind) ⟨name, entryPart kind key, labels, value, timestamp⟩ =
      .ok ({ m with
        entries := m.entries.insert key value
        timestamp := timestamp <|> m.timestamp }.sample kind) := by
  unfold sample entryPart
  split <;> rfl

theorem fill_sum (kind : Kind) (m : Folded) (name value : String) (labels : Labels)
    (timestamp : Option String) :
    Scrape.fill (m.sample kind) ⟨name, .sum, labels, value, timestamp⟩ =
      .ok ({ m with sum := value }.sample kind) := by
  unfold sample
  split <;> rfl

theorem fill_count (kind : Kind) (m : Folded) (name value : String) (labels : Labels)
    (timestamp : Option String) :
    Scrape.fill (m.sample kind) ⟨name, .count, labels, value, timestamp⟩ =
      .ok ({ m with count := value }.sample kind) := by
  unfold sample
  split <;> rfl

theorem fill_entries (kind : Kind) (name : String) (labels : Labels) (timestamp : Option String)
    (es : List (String × String)) {m : Folded} (h : (timestamp <|> m.timestamp) = timestamp) :
    (es.map fun e => (⟨name, entryPart kind e.1, labels, e.2, timestamp⟩ : Line)).foldlM
        Scrape.fill (m.sample kind) =
      .ok ({ m with
        entries := m.entries.insertAll es
        timestamp := if es = [] then m.timestamp else timestamp }.sample kind) := by
  induction es generalizing m with
  | nil => rfl
  | cons e es ih =>
    rw [List.map_cons, List.foldlM_cons, fill_entry, h]
    have hrest := ih (m := { m with entries := m.entries.insert e.1 e.2, timestamp })
      (by cases timestamp <;> rfl)
    simp only [bind, Except.bind, ite_self] at hrest ⊢
    rw [hrest, Dictionary.insertAll_cons]
    simp

theorem fill_total {part : Part} {kind : Kind} {m m' : Folded} {name value : String}
    {labels : Labels} (hempty : value = "" → m' = m)
    (hfill : Scrape.fill (m.sample kind) ⟨name, part, labels, value, none⟩ =
      .ok (m'.sample kind)) :
    (totalLine name part labels value).foldlM Scrape.fill (m.sample kind) =
      .ok (m'.sample kind) := by
  unfold totalLine
  split
  · rename_i hvalue
    rw [hempty hvalue]
    rfl
  · rw [List.foldlM_cons, hfill]
    rfl

/-- **A folded sample is built up from its lines.** -/
theorem fill_lines {kind : Kind} {m : Folded} (h : m.Writable kind) (name : String) :
    (m.lines kind name).foldlM Scrape.fill ((blank m.labels).sample kind) =
      .ok (m.sample kind) := by
  have hentries : (m.entryLines kind name).foldlM Scrape.fill ((blank m.labels).sample kind) =
      .ok ((⟨m.labels, m.timestamp, m.entries, "", ""⟩ : Folded).sample kind) := by
    rw [entryLines, fill_entries kind name m.labels m.timestamp m.entries.entries
      (by cases m.timestamp <;> rfl)]
    have hall : (∅ : Dictionary String).insertAll m.entries.entries = m.entries :=
      Dictionary.ofList_entries m.entries
    simp only [blank, hall]
    split
    · rename_i hempty
      -- there is no entry that could bring a timestamp
      cases htime : m.timestamp with
      | none => rfl
      | some t =>
        have hnone : m.entries = ∅ := by rw [← hall, hempty]; rfl
        exact absurd hnone (h.timestamp t htime).2
    · rfl
  have hsum : (totalLine name .sum m.labels m.sum).foldlM Scrape.fill
      ((⟨m.labels, m.timestamp, m.entries, "", ""⟩ : Folded).sample kind) =
      .ok ((⟨m.labels, m.timestamp, m.entries, m.sum, ""⟩ : Folded).sample kind) :=
    fill_total (fun hempty => by rw [hempty]) (fill_sum kind _ name m.sum m.labels none)
  have hcount : (totalLine name .count m.labels m.count).foldlM Scrape.fill
      ((⟨m.labels, m.timestamp, m.entries, m.sum, ""⟩ : Folded).sample kind) =
      .ok (m.sample kind) :=
    fill_total (fun hempty => by rw [← hempty]) (fill_count kind _ name m.count m.labels none)
  rw [lines, List.foldlM_append, List.foldlM_append, hentries]
  simp only [bind, Except.bind, hsum, hcount]

end Folded

/-! ## Samples -/

/-- A summary as a folded sample. -/
def Folded.ofSummary (m : Summary) : Folded :=
  ⟨m.labels, m.timestamp, m.quantiles, m.sum, m.count⟩

/-- A histogram as a folded sample. -/
def Folded.ofHistogram (m : Histogram) : Folded :=
  ⟨m.labels, m.timestamp, m.buckets, m.sum, m.count⟩

/-- The lines that give the values of a sample. -/
def sampleLines (name : String) : Sample → List Line
  | .plain s => [⟨name, .plain, s.labels, s.value, s.timestamp⟩]
  | .summary m => (Folded.ofSummary m).lines .summary name
  | .histogram m => (Folded.ofHistogram m).lines .histogram name

/-- A sample with one value that can be written. -/
@[mk_iff]
structure PlainWritable (s : Plain) : Prop where
  names : ∀ e ∈ s.labels.entries, isLabelName e.1.toList = true
  value : IsValueText s.value
  timestamp : ∀ t ∈ s.timestamp, IsTimestamp t

instance (s : Plain) : Decidable (PlainWritable s) :=
  decidable_of_iff' _ (plainWritable_iff s)

/-- A sample that can be written. -/
def SampleWritable : Sample → Prop
  | .plain s => PlainWritable s
  | .summary m => (Folded.ofSummary m).Writable .summary
  | .histogram m => (Folded.ofHistogram m).Writable .histogram

instance : DecidablePred SampleWritable
  | .plain s => inferInstanceAs (Decidable (PlainWritable s))
  | .summary m => inferInstanceAs (Decidable ((Folded.ofSummary m).Writable .summary))
  | .histogram m => inferInstanceAs (Decidable ((Folded.ofHistogram m).Writable .histogram))

/-- A sample of the shape for a kind is plain or folded, as the kind says. -/
theorem sample_cases {s : Sample} {kind : Kind} (hfits : s.fits kind = true)
    (h : SampleWritable s) :
    (isFolded kind = false ∧ ∃ p, s = .plain p ∧ PlainWritable p) ∨
    (isFolded kind = true ∧ ∃ m : Folded, s = m.sample kind ∧ m.Writable kind ∧
      ∀ name, sampleLines name s = m.lines kind name) := by
  cases s with
  | plain p =>
    refine .inl ⟨?_, p, rfl, h⟩
    cases kind <;> simp_all [Sample.fits, isFolded]
  | summary m =>
    refine .inr ?_
    cases kind <;> simp only [Sample.fits, Bool.false_eq_true] at hfits
    exact ⟨rfl, .ofSummary m, rfl, h, fun name => rfl⟩
  | histogram m =>
    refine .inr ?_
    cases kind <;> simp only [Sample.fits, Bool.false_eq_true] at hfits
    exact ⟨rfl, .ofHistogram m, rfl, h, fun name => rfl⟩

/-! ## Lines of a sample -/

/-- Whether a family of a kind has a part. -/
def belongs (kind : Kind) : Part → Bool
  | .plain => !isFolded kind
  | .quantile _ => kind = .summary
  | .bucket _ => kind = .histogram
  | .sum => isFolded kind
  | .count => isFolded kind

/-- A line of a family that can be written. -/
structure LineFits (kind : Kind) (name : String) (labels : Labels) (l : Line) : Prop where
  family : l.family = name
  labels : l.labels = labels
  part : belongs kind l.part = true
  free : isFolded kind = true → l.labels.get? (entryLabel kind) = none
  writable : l.Writable

theorem isMetricName_append {name : String} (h : isMetricName name.toList = true)
    {ending : String} (hending : ending.toList.all (isNameChar false) = true) :
    isMetricName (name ++ ending).toList = true := by
  rw [String.toList_append]
  cases hname : name.toList with
  | nil => simp [hname, isMetricName] at h
  | cons c cs =>
    rw [hname, isMetricName, Bool.and_eq_true] at h
    simp only [List.cons_append, isMetricName, List.all_append, h.1, h.2, hending, Bool.and_self]

namespace Folded

variable {kind : Kind} {m : Folded} {name : String}

/-- The name of every series of a family is one. -/
theorem isMetricName_seriesName (hname : isMetricName name.toList = true) (part : Part)
    (labels : Labels) (value : String) (timestamp : Option String) :
    isMetricName (Line.seriesName ⟨name, part, labels, value, timestamp⟩).toList = true := by
  cases part with
  | plain => exact hname
  | quantile q => exact hname
  | bucket bound => exact isMetricName_append hname (by decide)
  | sum => exact isMetricName_append hname (by decide)
  | count => exact isMetricName_append hname (by decide)

theorem entryLine_fits (hfolded : isFolded kind = true) (h : m.Writable kind)
    (hname : isMetricName name.toList = true) {l : Line} (hl : l ∈ m.entryLines kind name) :
    LineFits kind name m.labels l := by
  obtain ⟨e, he, rfl⟩ := List.mem_map.mp hl
  have hwritten : Line.writtenLabels
      ⟨name, entryPart kind e.1, m.labels, e.2, m.timestamp⟩ =
      m.labels.entries ++ [(entryLabel kind, e.1)] := by
    unfold entryPart entryLabel
    split <;> rfl
  refine ⟨rfl, rfl, ?_, fun _ => h.free,
    isMetricName_seriesName hname _ _ _ _, ?_, ?_, h.entries e he, fun t ht => (h.timestamp t ht).1⟩
  · cases kind <;> simp_all [isFolded, entryPart, belongs]
  · rw [hwritten, List.forall_mem_append]
    have hlabel : isLabelName (entryLabel kind).toList = true := by
      unfold entryLabel
      split <;> decide
    exact ⟨h.names, by simpa using hlabel⟩
  · rw [hwritten, List.map_append, List.nodup_append]
    refine ⟨m.labels.nodup_keys, by simp, ?_⟩
    rintro k hk k' hk' rfl
    rw [List.map_singleton, List.mem_singleton] at hk'
    rw [hk'] at hk
    exact (m.labels.get?_eq_none_iff _).mp h.free hk

theorem totalLine_fits (h : m.Writable kind) (hname : isMetricName name.toList = true)
    {part : Part} (hpart : part = .sum ∨ part = .count) (hfolded : isFolded kind = true)
    {value : String} (hvalue : value ≠ "" → IsValueText value) {l : Line}
    (hl : l ∈ totalLine name part m.labels value) : LineFits kind name m.labels l := by
  unfold totalLine at hl
  split at hl
  · cases hl
  · rename_i hne
    rw [List.mem_singleton] at hl
    subst hl
    have hwritten : Line.writtenLabels ⟨name, part, m.labels, value, none⟩ = m.labels.entries := by
      rcases hpart with rfl | rfl <;> rfl
    refine ⟨rfl, rfl, ?_, fun _ => h.free, isMetricName_seriesName hname _ _ _ _, ?_, ?_,
      hvalue hne, by rintro t ⟨⟩⟩
    · rcases hpart with rfl | rfl <;> exact hfolded
    · rw [hwritten]
      exact h.names
    · rw [hwritten]
      exact m.labels.nodup_keys

theorem lines_fit (hfolded : isFolded kind = true) (h : m.Writable kind)
    (hname : isMetricName name.toList = true) :
    ∀ l ∈ m.lines kind name, LineFits kind name m.labels l := by
  intro l hl
  rw [lines, List.mem_append, List.mem_append] at hl
  rcases hl with (hl | hl) | hl
  · exact entryLine_fits hfolded h hname hl
  · exact totalLine_fits h hname (.inl rfl) hfolded h.sum hl
  · exact totalLine_fits h hname (.inr rfl) hfolded h.count hl

/-- Something is written for every folded sample. -/
theorem lines_ne_nil (h : m.Writable kind) : m.lines kind name ≠ [] := by
  rcases h.nonempty with hentries | hsum | hcount
  · have hne : m.entries.entries ≠ [] := by
      intro hnil
      refine hentries (Dictionary.ext_get? fun k => ?_)
      rw [Dictionary.get?, hnil]
      rfl
    simp [lines, entryLines, hne]
  · simp [lines, totalLine, hsum]
  · simp [lines, totalLine, hcount]

end Folded

theorem plainLine_fits {s : Plain} {kind : Kind} (hplain : isFolded kind = false)
    (h : PlainWritable s) {name : String} (hname : isMetricName name.toList = true) :
    LineFits kind name s.labels ⟨name, .plain, s.labels, s.value, s.timestamp⟩ where
  family := rfl
  labels := rfl
  part := by simp [belongs, hplain]
  free := by simp [hplain]
  writable := ⟨hname, h.names, s.labels.nodup_keys, h.value, h.timestamp⟩

/-! ## Families -/

/-- A comment line: a keyword, the name of a family, and what there is to say about it. -/
def commentText (keyword name rest : List Char) : List Char :=
  '#' :: ' ' :: (keyword ++ ' ' :: (name ++ ' ' :: rest))

/-- The comment lines of a family. -/
def headerTexts (f : Family) : List (List Char) :=
  (if f.help = "" then []
    else [commentText "HELP".toList f.name.toList (escape false f.help.toList)]) ++
  [commentText "TYPE".toList f.name.toList (Text.lowered f.kind.name).toList]

/-- The lines that give the values of a family. -/
def familyLines (f : Family) : List Line :=
  f.samples.flatMap (sampleLines f.name)

/-- A family as it is written, line by line. -/
def familyTexts (f : Family) : List (List Char) :=
  headerTexts f ++ (familyLines f).map Line.text

/-- Families as they are written. -/
def write (fs : List Family) : String :=
  String.ofList ((fs.flatMap familyTexts).flatMap (· ++ ['\n']))

/-- A family that can be written. -/
@[mk_iff]
structure FamilyWritable (f : Family) : Prop where
  name : isMetricName f.name.toList = true
  help : Text.trim f.help.toList = f.help.toList
  nonempty : f.samples ≠ []
  shaped : f.wellShaped = true
  samples : ∀ s ∈ f.samples, SampleWritable s
  /-- The lines of folded samples are told apart by their labels. -/
  distinct : isFolded f.kind = true → (f.samples.map Sample.labels).Nodup

instance (f : Family) : Decidable (FamilyWritable f) :=
  decidable_of_iff' _ (familyWritable_iff f)

/-- No family is named like a series of another one. -/
def Apart (fs : List Family) : Prop :=
  ∀ f ∈ fs, ∀ g ∈ fs, ∀ e ∈ Scrape.suffixes, g.kind ∈ e.2 → f.name ≠ g.name ++ e.1

instance (fs : List Family) : Decidable (Apart fs) :=
  inferInstanceAs (Decidable (∀ f ∈ fs, ∀ g ∈ fs, ∀ e ∈ Scrape.suffixes, _))

/-- Families that can be written together. -/
@[mk_iff]
structure Writable (fs : List Family) : Prop where
  each : ∀ f ∈ fs, FamilyWritable f
  names : (fs.map Family.name).Nodup
  apart : Apart fs

instance (fs : List Family) : Decidable (Writable fs) :=
  decidable_of_iff' _ (writable_iff fs)

theorem familyLines_fit {f : Family} (h : FamilyWritable f) {s : Sample} (hs : s ∈ f.samples) :
    ∀ l ∈ sampleLines f.name s, LineFits f.kind f.name s.labels l := by
  have hfits : s.fits f.kind = true := List.all_eq_true.mp h.shaped s hs
  rcases sample_cases hfits (h.samples s hs) with ⟨hplain, p, rfl, hp⟩ | ⟨hfolded, m, rfl, hm, hl⟩
  · intro l hl
    rw [sampleLines, List.mem_singleton] at hl
    rw [hl]
    exact plainLine_fits hplain hp h.name
  · rw [hl, Folded.labels_sample]
    exact Folded.lines_fit hfolded hm h.name

theorem familyLines_ne_nil {f : Family} (h : FamilyWritable f) : familyLines f ≠ [] := by
  obtain ⟨s, hs⟩ := List.exists_mem_of_ne_nil f.samples h.nonempty
  have hline : sampleLines f.name s ≠ [] := by
    have hfits : s.fits f.kind = true := List.all_eq_true.mp h.shaped s hs
    rcases sample_cases hfits (h.samples s hs) with ⟨_, p, rfl, _⟩ | ⟨_, m, _, hm, hl⟩
    · simp [sampleLines]
    · rw [hl]
      exact Folded.lines_ne_nil hm
  intro hnil
  exact hline (List.flatMap_eq_nil_iff.mp hnil s hs)

end Exposition

end Assay
