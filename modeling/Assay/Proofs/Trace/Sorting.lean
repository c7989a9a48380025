import Assay.Proofs.Document.Reading
import Assay.Proofs.Json.Compact
import Assay.Proofs.Trace.FieldOrder

/-!
# Spans in order of their start

Sorting puts spans in order, keeps those of one start time as they stood, and has nothing left to do
the second time. What is loaded is sorted, so it is found again where it is written and loaded.
-/

namespace Assay

/-- Whether a span starts no later than another one. -/
def Span.startsBy (a b : Span) : Bool :=
  a.startTime.value ≤ b.startTime.value

theorem Span.startsBy_trans (a b c : Span) (hab : a.startsBy b) (hbc : b.startsBy c) :
    a.startsBy c = true := by
  simp only [startsBy, decide_eq_true_eq] at *
  omega

theorem Span.startsBy_total (a b : Span) : (a.startsBy b || b.startsBy a) = true := by
  simp only [startsBy, Bool.or_eq_true, decide_eq_true_eq]
  omega

namespace Trace

theorem pairwise_sortSpans (t : Trace) :
    t.sortSpans.spans.Pairwise fun a b => a.startsBy b = true :=
  List.pairwise_mergeSort Span.startsBy_trans Span.startsBy_total t.spans

theorem perm_sortSpans (t : Trace) : t.sortSpans.spans.Perm t.spans :=
  List.mergeSort_perm t.spans Span.startsBy

/-- **Sorting is idempotent.** -/
theorem sortSpans_sortSpans (t : Trace) : t.sortSpans.sortSpans = t.sortSpans := by
  have hsorted : t.sortSpans.spans.mergeSort Span.startsBy = t.sortSpans.spans :=
    List.mergeSort_of_pairwise t.pairwise_sortSpans
  exact congrArg (Trace.mk t.traceId) hsorted

/-- **Sorting is stable**: the spans of one start time keep their order. -/
theorem filter_sortSpans (t : Trace) (start : Int) :
    t.sortSpans.spans.filter (·.startTime.value = start) =
      t.spans.filter (·.startTime.value = start) := by
  have hequal : (t.spans.filter (·.startTime.value = start)).Pairwise
      fun a b => a.startsBy b = true := by
    refine List.pairwise_of_forall_mem_list fun a ha b hb => ?_
    simp only [List.mem_filter, decide_eq_true_eq] at ha hb
    simp [Span.startsBy, ha.2, hb.2]
  have hsub := (List.sublist_mergeSort Span.startsBy_trans Span.startsBy_total hequal
    List.filter_sublist).filter (·.startTime.value = start)
  rw [List.filter_filter] at hsub
  simp only [Bool.and_self] at hsub
  exact (hsub.eq_of_length (t.perm_sortSpans.filter _).length_eq.symm).symm

end Trace

namespace Snapshot

theorem sortSpans_sortSpans (s : Snapshot) : s.sortSpans.sortSpans = s.sortSpans := by
  simp [sortSpans, Trace.sortSpans_sortSpans]

theorem Writable.sortSpans {s : Snapshot} (h : s.Writable) : s.sortSpans.Writable := by
  refine ⟨h.size, fun t ht span hspan => ?_⟩
  obtain ⟨t', ht', rfl⟩ := List.mem_map.mp ht
  exact h.spans t' ht' span (t'.perm_sortSpans.mem_iff.mp hspan)

end Snapshot

namespace Load

/-- What is loaded is what was read, sorted. -/
theorem traces_eq_ok_iff {files : Files} {path : String} {s : Snapshot} :
    traces files path = .ok s ↔ ∃ text read, files.read path = .ok text ∧
      Snapshot.read (source path text).root = .ok read ∧ (source path text).complete = true ∧
      read.sortSpans = s := by
  constructor
  · intro h
    obtain ⟨read, hread, hsorted⟩ := bind_eq_ok h
    obtain ⟨text, htext, hroot, hcomplete⟩ := document_eq_ok_iff.mp hread
    exact ⟨text, read, htext, hroot, hcomplete, Except.ok.inj hsorted⟩
  · rintro ⟨text, read, htext, hroot, hcomplete, rfl⟩
    rw [traces, document_eq_ok_iff.mpr ⟨text, htext, hroot, hcomplete⟩]
    rfl

/-- What is loaded can be written, and is sorted. -/
theorem writable_of_traces {files : Files} {path : String} {s : Snapshot}
    (h : traces files path = .ok s) : s.Writable ∧ s.sortSpans = s := by
  obtain ⟨text, read, -, hread, -, rfl⟩ := traces_eq_ok_iff.mp h
  exact ⟨(Snapshot.writable_of_read hread).sortSpans, read.sortSpans_sortSpans⟩

/-- **What is loaded is found again** under any path where a text lies that holds it. -/
theorem traces_of_heldBy {files : Files} {path text : String} {s : Snapshot} {n : Document.Node}
    (h : s.Writable) (hsorted : s.sortSpans = s) (htext : files.read path = .ok text)
    (hsource : source path text = ⟨n, true⟩) (hholds : s.toJson.HeldBy n) :
    traces files path = .ok s := by
  refine traces_eq_ok_iff.mpr ⟨text, s, htext, ?_, ?_, hsorted⟩
  · rw [hsource]
    exact Snapshot.read_of_heldBy h hholds
  · rw [hsource]

/-- The text that a snapshot is written as is one that holds it, if it can be read at all. -/
theorem traces_of_compact {files : Files} {path : String} {s : Snapshot} (h : s.Writable)
    (hsorted : s.sortSpans = s) (hpath : isYaml path = false)
    (htext : files.read path = .ok s.toJson.compact)
    (hread : Json.ofText s.toJson.compact = .ok s.toJson) : traces files path = .ok s := by
  refine traces_of_heldBy h hsorted htext ?_ (Json.heldBy_node s.toJson)
  rw [source, hpath]
  exact Json.source_compact (Snapshot.canonical_toJson h) hread

end Load

end Assay
