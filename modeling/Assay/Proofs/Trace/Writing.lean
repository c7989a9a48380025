import Assay.Proofs.Document.Reading
import Assay.Proofs.Document.Writing
import Assay.Trace.Basic

/-!
# Traces read back

A snapshot of traces that fits the widths of its numbers is read back from the value that it is
written as, whatever it holds.
-/

namespace Assay

open Document (Node)
open Dictionary (insertEntry_nil insertEntry_of_lt insertEntry_of_gt)
open Json (canonical_ofFields canonicalItems_iff eq_set_of_ok set_ok)

/-! ## What can be written -/

/-- Whether a number fits its 64 bits. -/
def Quantity.Fits : Quantity → Prop
  | .int n => Number.isInt64 n = true
  | .text _ => True

/-- Whether all that a span holds can be written. -/
structure Span.Writable (s : Span) : Prop where
  duration : s.duration.Fits
  flags : s.flags.Fits
  startTime : s.startTime.Fits
  logs : ∀ j ∈ s.logs, j.Canonical

/-- Whether all that a snapshot holds can be written. -/
structure Snapshot.Writable (s : Snapshot) : Prop where
  size : ∀ n, s.size = some n → n < Number.words64
  spans : ∀ t ∈ s.traces, ∀ span ∈ t.spans, span.Writable

/-! ## What is written -/

theorem Quantity.canonical_toJson (q : Quantity) : q.toJson.Canonical := by
  cases q <;> trivial

theorem Reference.canonical_toJson (r : Reference) : r.toJson.Canonical :=
  canonical_ofFields (by simp [Json.Canonical])

theorem Span.canonical_toJson {s : Span} (h : s.Writable) : s.toJson.Canonical := by
  have hreferences : (Json.list (s.references.map Reference.toJson)).Canonical :=
    canonicalItems_iff.mpr (List.forall_mem_map.mpr fun r _ => r.canonical_toJson)
  have hlogs : (Json.list s.logs).Canonical := canonicalItems_iff.mpr h.logs
  refine canonical_ofFields (List.forall_mem_append.mpr ⟨?_, ?_⟩)
  · simp only [List.forall_mem_cons]
    exact ⟨trivial, trivial, trivial, s.duration.canonical_toJson, s.flags.canonical_toJson,
      s.startTime.canonical_toJson, trivial, Json.canonical_ofTexts s.tags, hreferences, by simp⟩
  · split
    · simp
    · simpa using hlogs

theorem Trace.canonical_toJson {t : Trace} (h : ∀ s ∈ t.spans, s.Writable) :
    t.toJson.Canonical := by
  have hspans : (Json.list (t.spans.map Span.toJson)).Canonical :=
    canonicalItems_iff.mpr (List.forall_mem_map.mpr fun s hs => Span.canonical_toJson (h s hs))
  refine canonical_ofFields ?_
  simp only [List.forall_mem_cons]
  exact ⟨trivial, hspans, by simp⟩

theorem Snapshot.canonical_toJson {s : Snapshot} (h : s.Writable) : s.toJson.Canonical := by
  have htraces : (Json.list (s.traces.map Trace.toJson)).Canonical :=
    canonicalItems_iff.mpr
      (List.forall_mem_map.mpr fun t ht => Trace.canonical_toJson (h.spans t ht))
  refine canonical_ofFields (List.forall_mem_append.mpr ⟨?_, by simpa using htraces⟩)
  cases s.size <;> simp [Json.Canonical]

/-! ## Reading back -/

theorem Quantity.read_toJson {q : Quantity} (h : q.Fits) : Quantity.read q.toJson.node = .ok q := by
  cases q with
  | int n =>
    show (if Number.isInt64 n then (.ok (.int n) : Except Document.Error Quantity)
      else .error .malformed) = .ok (.int n)
    exact if_pos h
  | text s => rfl

/-- Field by field, in the order in which they are written. -/
theorem Reference.toJson_eq (r : Reference) : r.toJson = .object
    [("refType", .text r.refType), ("spanId", .text r.spanId), ("traceId", .text r.traceId)] := by
  simp (disch := decide +kernel) [toJson, Json.ofFields, insertEntry_nil, insertEntry_of_lt,
    insertEntry_of_gt]

theorem Reference.read_toJson (r : Reference) : Reference.read r.toJson.node = .ok r := by
  rw [toJson_eq]
  refine Json.record_of_fills ?_
  refine .cons 2 rfl rfl (set_ok (Json.lenient_node r.refType) _) ?_
  refine .cons 0 rfl rfl (set_ok (Json.lenient_node r.spanId) _) ?_
  exact .cons 1 rfl rfl (set_ok (Json.lenient_node r.traceId) _) .nil

theorem Span.toJson_eq (s : Span) : s.toJson = .object
    ([("duration", s.duration.toJson), ("flags", s.flags.toJson)] ++
      ((if s.logs.isEmpty then [] else [("logs", .list s.logs)]) ++
      [("operationName", .text s.operationName), ("parentSpanId", .text s.parentSpanId),
        ("references", .list (s.references.map Reference.toJson)), ("spanId", .text s.spanId),
        ("startTime", s.startTime.toJson), ("tags", .ofTexts s.tags),
        ("traceId", .text s.traceId)])) := by
  unfold Span.toJson
  split <;>
    simp (disch := decide +kernel) [Json.ofFields, insertEntry_nil, insertEntry_of_lt,
      insertEntry_of_gt]

theorem Span.read_toJson {s : Span} (h : s.Writable) : Span.read s.toJson.node = .ok s := by
  have hreferences := Json.items_node Reference.toJson s.references fun r _ => r.read_toJson
  have hlogs : (Json.list s.logs).node.items Node.json = .ok s.logs := by
    simpa using Json.items_node id s.logs fun j hj => Json.json_node (h.logs j hj)
  rw [toJson_eq]
  refine Json.record_of_fills ?_
  refine .cons 3 rfl rfl (set_ok (Quantity.read_toJson h.duration) _) ?_
  refine .cons 4 rfl rfl (set_ok (Quantity.read_toJson h.flags) _) ?_
  refine .unless 9 rfl rfl (fun hempty => ?_) (fun _ => set_ok hlogs _) ?_
  · rw [List.isEmpty_iff.mp hempty]
  refine .cons 6 rfl rfl (set_ok (Json.lenient_node s.operationName) _) ?_
  refine .cons 2 rfl rfl (set_ok (Json.lenient_node s.parentSpanId) _) ?_
  refine .cons 8 rfl rfl (set_ok hreferences _) ?_
  refine .cons 1 rfl rfl (set_ok (Json.lenient_node s.spanId) _) ?_
  refine .cons 5 rfl rfl (set_ok (Quantity.read_toJson h.startTime) _) ?_
  refine .cons 7 rfl rfl (set_ok (Json.lenientDictionary_node s.tags) _) ?_
  exact .cons 0 rfl rfl (set_ok (Json.lenient_node s.traceId) _) .nil

theorem Trace.toJson_eq (t : Trace) : t.toJson = .object
    [("spans", .list (t.spans.map Span.toJson)), ("traceId", .text t.traceId)] := by
  simp (disch := decide +kernel) [toJson, Json.ofFields, insertEntry_nil, insertEntry_of_lt]

theorem Trace.read_toJson {t : Trace} (h : ∀ s ∈ t.spans, s.Writable) :
    Trace.read t.toJson.node = .ok t := by
  have hspans := Json.items_node Span.toJson t.spans fun s hs => Span.read_toJson (h s hs)
  rw [toJson_eq]
  refine Json.record_of_fills ?_
  refine .cons 1 rfl rfl (set_ok hspans _) ?_
  exact .cons 0 rfl rfl (set_ok (Json.lenient_node t.traceId) _) .nil

theorem Snapshot.toJson_eq (s : Snapshot) : s.toJson = .object
    ((if s.size = none then [] else [("size", .whole (s.size.getD 0))]) ++
      [("traces", .list (s.traces.map Trace.toJson))]) := by
  unfold Snapshot.toJson
  cases s.size <;>
    simp (disch := decide +kernel) [Json.ofFields, insertEntry_nil, insertEntry_of_gt]

theorem Snapshot.read_toJson {s : Snapshot} (h : s.Writable) :
    Snapshot.read s.toJson.node = .ok s := by
  have htraces := Json.items_node Trace.toJson s.traces fun t ht => Trace.read_toJson (h.spans t ht)
  have hsize : s.size ≠ none →
      (Json.whole (s.size.getD 0)).node.optional Node.uint64 = .ok s.size := by
    cases hn : s.size with
    | none => exact fun hne => absurd rfl hne
    | some n => exact fun _ => Json.optional_uint64_node (h.size n hn)
  rw [toJson_eq]
  refine Json.record_of_fills ?_
  refine .unless 0 rfl rfl (fun hnone => ?_) (fun hsome => set_ok (hsize hsome) _) ?_
  · rw [hnone]
  exact .cons 1 rfl rfl (set_ok htraces _) .nil

/-! ## What was read can be written -/

theorem Quantity.fits_of_read {n : Node} {q : Quantity} (h : Quantity.read n = .ok q) : q.Fits := by
  obtain ⟨a, -, h⟩ := bind_eq_ok h
  split at h
  · split at h
    · cases h
      assumption
    · cases h
  · cases h
    trivial
  · cases h

theorem Span.writable_default : Span.Writable {} :=
  ⟨trivial, trivial, trivial, by simp⟩

theorem Span.writable_of_read {n : Node} {s : Span} (h : Span.read n = .ok s) : s.Writable := by
  refine Node.record_induction (motive := Span.Writable) ?_ writable_default h
  intro a i m a' ha hread
  unfold readField at hread
  split at hread <;> obtain ⟨v, hv, rfl⟩ := eq_set_of_ok hread
  case h_4 => exact { ha with duration := Quantity.fits_of_read hv }
  case h_5 => exact { ha with flags := Quantity.fits_of_read hv }
  case h_6 => exact { ha with startTime := Quantity.fits_of_read hv }
  case h_10 =>
    refine { ha with logs := fun j hj => ?_ }
    obtain ⟨m, hm⟩ := Node.exists_read_of_items hv hj
    exact Json.canonical_of_json hm
  all_goals exact { ha with }

/-- Every span of a trace can be written. -/
theorem Trace.writable_of_read {n : Node} {t : Trace} (h : Trace.read n = .ok t) :
    ∀ s ∈ t.spans, s.Writable := by
  refine Node.record_induction (motive := fun t => ∀ s ∈ t.spans, s.Writable) ?_ (by simp) h
  intro a i m a' ha hread
  split at hread <;> obtain ⟨v, hv, rfl⟩ := eq_set_of_ok hread
  · exact ha
  · intro s hs
    obtain ⟨m, hm⟩ := Node.exists_read_of_items hv hs
    exact Span.writable_of_read hm

theorem Snapshot.writable_of_read {n : Node} {s : Snapshot} (h : Snapshot.read n = .ok s) :
    s.Writable := by
  refine Node.record_induction (motive := Snapshot.Writable) ?_ ⟨by simp, by simp⟩ h
  intro a i m a' ha hread
  split at hread <;> obtain ⟨v, hv, rfl⟩ := eq_set_of_ok hread
  · refine { ha with size := fun n hn => ?_ }
    obtain rfl : v = some n := hn
    exact Node.lt_of_uint64 (Node.read_of_optional hv)
  · refine { ha with spans := fun t ht => ?_ }
    obtain ⟨m, hm⟩ := Node.exists_read_of_items hv ht
    exact Trace.writable_of_read hm

end Assay
