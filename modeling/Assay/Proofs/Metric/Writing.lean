import Assay.Metric.Basic
import Assay.Proofs.Document.Writing

/-!
# Metric families read back

Families whose samples have the shape for their kind are read back from the value that they are
written as. A sample says nothing of its shape itself, so it is read back only through its family.
-/

namespace Assay.Metric

open Document (Node)
open Dictionary (insertEntry_nil insertEntry_of_lt insertEntry_of_gt)
open Json (Fills set_ok)

namespace Sample

/-! ## Fields in the order in which they are written -/

theorem toJson_plain (s : Plain) : (Sample.plain s).toJson = .object
    ((if s.labels.isEmpty then [] else [("labels", .ofTexts s.labels)]) ++
      ((if s.timestamp = none then [] else [("timestamp_ms", .text (s.timestamp.getD ""))]) ++
        [("value", .text s.value)])) := by
  simp only [toJson, sharedFields]
  cases s.timestamp <;> split <;>
    simp (disch := decide +kernel) [Json.ofFields, insertEntry_nil, insertEntry_of_gt]

theorem toJson_summary (s : Summary) : (Sample.summary s).toJson = .object
    ([("count", .text s.count)] ++
      ((if s.labels.isEmpty then [] else [("labels", .ofTexts s.labels)]) ++
        ([("quantiles", .ofTexts s.quantiles), ("sum", .text s.sum)] ++
          ((if s.timestamp = none then [] else [("timestamp_ms", .text (s.timestamp.getD ""))]) ++
            [])))) := by
  simp only [toJson, sharedFields]
  cases s.timestamp <;> split <;>
    simp (disch := decide +kernel) [Json.ofFields, insertEntry_nil, insertEntry_of_lt,
      insertEntry_of_gt]

theorem toJson_histogram (s : Histogram) : (Sample.histogram s).toJson = .object
    ([("buckets", .ofTexts s.buckets), ("count", .text s.count)] ++
      ((if s.labels.isEmpty then [] else [("labels", .ofTexts s.labels)]) ++
        ([("sum", .text s.sum)] ++
          ((if s.timestamp = none then [] else [("timestamp_ms", .text (s.timestamp.getD ""))]) ++
            [])))) := by
  simp only [toJson, sharedFields]
  cases s.timestamp <;> split <;>
    simp (disch := decide +kernel) [Json.ofFields, insertEntry_nil, insertEntry_of_lt,
      insertEntry_of_gt]

/-! ## Reading back -/

theorem eq_empty_of_isEmpty {d : Labels} (h : Dictionary.isEmpty d = true) : d = ∅ := by
  obtain ⟨entries, sorted⟩ := d
  obtain rfl : entries = [] := List.isEmpty_iff.mp h
  rfl

/-- A timestamp is read back where there is one. -/
theorem timestamp_node {t : Option String} (h : t ≠ none) :
    (Json.text (t.getD "")).node.lenientOption = .ok t := by
  cases t with
  | none => exact absurd rfl h
  | some t => rfl

theorem readPlain_toJson (s : Plain) : readPlain (Sample.plain s).toJson.node = .ok s := by
  rw [toJson_plain]
  refine Json.record_of_fills ?_
  refine .unless 0 rfl rfl (fun hempty => ?_)
    (fun _ => set_ok (Json.lenientDictionary_node s.labels) _) ?_
  · rw [eq_empty_of_isEmpty hempty]
  refine .unless 1 rfl rfl (fun hnone => ?_) (fun hsome => set_ok (timestamp_node hsome) _) ?_
  · rw [hnone]
  exact .cons 2 rfl rfl (set_ok (Json.lenient_node s.value) _) .nil

theorem readSummary_toJson (s : Summary) : readSummary (Sample.summary s).toJson.node = .ok s := by
  rw [toJson_summary]
  refine Json.record_of_fills ?_
  refine .cons 3 rfl rfl (set_ok (Json.lenient_node s.count) _) ?_
  refine .unless 0 rfl rfl (fun hempty => ?_)
    (fun _ => set_ok (Json.lenientDictionary_node s.labels) _) ?_
  · rw [eq_empty_of_isEmpty hempty]
  refine .cons 2 rfl rfl (set_ok (Json.lenientDictionary_node s.quantiles) _) ?_
  refine .cons 4 rfl rfl (set_ok (Json.lenient_node s.sum) _) ?_
  refine .unless 1 rfl rfl (fun hnone => ?_) (fun hsome => set_ok (timestamp_node hsome) _) .nil
  rw [hnone]

theorem readHistogram_toJson (s : Histogram) :
    readHistogram (Sample.histogram s).toJson.node = .ok s := by
  rw [toJson_histogram]
  refine Json.record_of_fills ?_
  refine .cons 2 rfl rfl (set_ok (Json.lenientDictionary_node s.buckets) _) ?_
  refine .cons 3 rfl rfl (set_ok (Json.lenient_node s.count) _) ?_
  refine .unless 0 rfl rfl (fun hempty => ?_)
    (fun _ => set_ok (Json.lenientDictionary_node s.labels) _) ?_
  · rw [eq_empty_of_isEmpty hempty]
  refine .cons 4 rfl rfl (set_ok (Json.lenient_node s.sum) _) ?_
  refine .unless 1 rfl rfl (fun hnone => ?_) (fun hsome => set_ok (timestamp_node hsome) _) .nil
  rw [hnone]

/-- A sample is read back in the shape for a kind, if it has that shape. -/
theorem read_toJson {s : Sample} {kind : Kind} (h : s.fits kind = true) :
    Sample.read kind s.toJson.node = .ok s := by
  cases s with
  | plain s =>
    have hread : (readPlain (Sample.plain s).toJson.node).map Sample.plain = .ok (.plain s) := by
      rw [readPlain_toJson]
      rfl
    cases kind <;> first | exact hread | cases h
  | summary s =>
    cases kind <;> try cases h
    show (readSummary _).map Sample.summary = _
    rw [readSummary_toJson]
    rfl
  | histogram s =>
    cases kind <;> try cases h
    show (readHistogram _).map Sample.histogram = _
    rw [readHistogram_toJson]
    rfl

theorem canonical_sharedFields (labels : Labels) (timestamp : Option String) :
    ∀ f ∈ sharedFields labels timestamp, f.2.Canonical := by
  intro f hf
  rcases List.mem_append.mp hf with hlabels | htimestamp
  · split at hlabels
    · cases hlabels
    · rw [List.mem_singleton.mp hlabels]
      exact Json.canonical_ofTexts labels
  · obtain ⟨t, -, rfl⟩ := Option.map_eq_some_iff.mp (Option.mem_toList.mp htimestamp)
    trivial

/-- A sample is written in one way only. -/
theorem canonical_toJson (s : Sample) : s.toJson.Canonical := by
  cases s with
  | plain s =>
    refine Json.canonical_ofFields (List.forall_mem_append.mpr ⟨canonical_sharedFields _ _, ?_⟩)
    simp [Json.Canonical]
  | summary s =>
    refine Json.canonical_ofFields (List.forall_mem_append.mpr ⟨canonical_sharedFields _ _, ?_⟩)
    simp [Json.Canonical, Json.canonical_ofTexts]
  | histogram s =>
    refine Json.canonical_ofFields (List.forall_mem_append.mpr ⟨canonical_sharedFields _ _, ?_⟩)
    simp [Json.Canonical, Json.canonical_ofTexts]

end Sample

theorem Kind.ofName_name (kind : Kind) : Kind.ofName kind.name = .ok kind := by
  cases kind <;> decide +kernel

namespace Family

theorem toJson_eq (f : Family) : f.toJson = .object
    [("help", .text f.help), ("metrics", .list (f.samples.map Sample.toJson)),
      ("name", .text f.name), ("type", .text f.kind.name)] := by
  simp (disch := decide +kernel) [toJson, Json.ofFields, insertEntry_nil, insertEntry_of_lt,
    insertEntry_of_gt]

theorem readSamples_toJson {name : String} {kind : Kind} {samples : List Sample}
    (h : ∀ s ∈ samples, s.fits kind = true) (start : Nat) :
    readSamples name kind ((samples.map Sample.toJson).zipIdx start) = .ok samples := by
  induction samples generalizing start with
  | nil => rfl
  | cons s samples ih =>
    rw [List.map_cons, List.zipIdx_cons, readSamples, Sample.read_toJson (h s List.mem_cons_self)]
    simp only [ih fun s' hs' => h s' (List.mem_cons_of_mem _ hs')]
    rfl

/-- **A family is read back**, its samples once their shape is known. -/
theorem read_toJson {f : Family} (h : f.wellShaped = true) :
    Family.read f.toJson.node = .ok f := by
  have hsamples : (Json.list (f.samples.map Sample.toJson)).node.items Node.json =
      .ok (f.samples.map Sample.toJson) := by
    have hcanonical : ∀ j ∈ f.samples.map Sample.toJson, j.node.json = .ok j := by
      intro j hj
      obtain ⟨s, -, rfl⟩ := List.mem_map.mp hj
      exact Json.json_node s.canonical_toJson
    simpa using Json.items_node id _ hcanonical
  have hkind : ∀ r : Raw,
      r.readField 2 (Json.text f.kind.name).node = .ok { r with kind := f.kind } := by
    intro r
    simp only [Raw.readField, Json.text_node, bind, Except.bind, f.kind.ofName_name]
    rfl
  have hraw : f.toJson.node.record [["name"], ["help"], ["type"], ["metrics"]] Raw.readField {} =
      .ok ⟨some f.name, f.help, f.kind, f.samples.map Sample.toJson⟩ := by
    rw [toJson_eq]
    refine Json.record_of_fills ?_
    refine .cons 1 rfl rfl (set_ok (Json.lenient_node f.help) _) ?_
    refine .cons 3 rfl rfl (set_ok hsamples _) ?_
    refine .cons 0 rfl rfl (set_ok (Json.text_node f.name) _) ?_
    exact .cons 2 rfl rfl (hkind _) .nil
  have hfits : ∀ s ∈ f.samples, s.fits f.kind = true := List.all_eq_true.mp h
  rw [Family.read, hraw]
  show (do return (⟨f.name, f.help, f.kind, ← readSamples f.name f.kind
    (f.samples.map Sample.toJson).zipIdx⟩ : Family)) = .ok f
  rw [readSamples_toJson hfits]
  rfl

/-- Families are read back in their order. -/
theorem items_toJson {fs : List Family} (h : ∀ f ∈ fs, f.wellShaped = true) :
    (Json.list (fs.map Family.toJson)).node.items Family.read = .ok fs :=
  Json.items_node Family.toJson fs fun f hf => read_toJson (h f hf)

end Family

end Assay.Metric
