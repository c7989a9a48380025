import Assay.Proofs.Metric.Writing
import Assay.Proofs.Trace.Sorting
import Mathlib

/-!
# What is written is read back

Snapshots of traces and metric families are declared twice, by how they are written and by how they
are read. The two agree: whatever can be held is read back as it was, and a snapshot that was loaded
is found again where a text holds what it is written as, its fields in any order.
-/

namespace Assay

open Document (Node)
open Assay.Metric (Family)

/-- **Written snapshots and families are read back as they were**, each quantity in the form that it
had. What was loaded is sorted by start time, where spans of one start time keep their order, so to
write it, with its fields in any order, and to load it again leads to the same. That a text holds
what was written is taken as given: for the compact text, that the JSON value in it is that one. -/
theorem written_read_back :
    (∀ s : Snapshot, s.Writable → Snapshot.read s.toJson.node = .ok s) ∧
    (∀ fs : List Family, (∀ f ∈ fs, f.wellShaped = true) →
      (Json.list (fs.map Family.toJson)).node.items Family.read = .ok fs) ∧
    (∀ files path s, Load.traces files path = .ok s → Snapshot.read s.toJson.node = .ok s ∧
      (∀ files' path' text n, files'.read path' = .ok text → Load.source path' text = ⟨n, true⟩ →
        s.toJson.HeldBy n → Load.traces files' path' = .ok s) ∧
      ∀ files' path', Load.isYaml path' = false → files'.read path' = .ok s.toJson.compact →
        Json.ofText s.toJson.compact = .ok s.toJson → Load.traces files' path' = .ok s) ∧
    (∀ t : Trace, t.sortSpans.sortSpans = t.sortSpans ∧ t.sortSpans.spans.Perm t.spans ∧
      t.sortSpans.spans.Pairwise (fun a b => a.startTime.value ≤ b.startTime.value) ∧
      ∀ start, t.sortSpans.spans.filter (·.startTime.value = start) =
        t.spans.filter (·.startTime.value = start)) := by
  refine ⟨fun s => Snapshot.read_toJson, fun fs => Family.items_toJson, fun files path s h => ?_,
    fun t => ⟨t.sortSpans_sortSpans, t.perm_sortSpans, ?_, t.filter_sortSpans⟩⟩
  · obtain ⟨hwritable, hsorted⟩ := Load.writable_of_traces h
    exact ⟨Snapshot.read_toJson hwritable,
      fun files' path' text n => Load.traces_of_heldBy hwritable hsorted,
      fun files' path' => Load.traces_of_compact hwritable hsorted⟩
  · exact t.pairwise_sortSpans.imp of_decide_eq_true

/-- Quantities in both forms, with the later span first, beside a trace that holds none. -/
def Snapshot.recorded : Snapshot where
  size := some 2
  traces :=
    [{ traceId := "t"
       spans :=
        [{ spanId := "pay", duration := .int 12, flags := .text "1", startTime := .text " 17 ",
           operationName := "POST /pay", tags := .ofList [("note", ""), ("http.status", "200")],
           references := [{ refType := "CHILD_OF", spanId := "cart" }],
           logs := [.null, .whole 3] },
         { spanId := "cart", startTime := .int (-5) }] },
     {}]

theorem Snapshot.writable_recorded : Snapshot.recorded.Writable where
  size n h := by
    obtain rfl : 2 = n := Option.some.inj h
    decide
  spans := by
    have hduration : (Quantity.int 12).Fits := show Number.isInt64 12 = true by decide
    have hstart : (Quantity.int (-5)).Fits := show Number.isInt64 (-5) = true by decide
    have hlogs : ∀ j ∈ [Json.null, .whole 3], j.Canonical := by simp [Json.Canonical]
    simp only [recorded, List.forall_mem_cons, List.not_mem_nil, false_implies, implies_true,
      and_true]
    exact ⟨⟨hduration, trivial, trivial, hlogs⟩, trivial, trivial, hstart, by simp⟩

/-- Families of every shape, with the parts that may be absent there and left out. -/
def Metric.Family.shapes : List Family :=
  [{ name := "up", help := "Up.", kind := .gauge
     samples :=
      [.plain { labels := .ofList [("job", "a")], timestamp := some "7", value := "1" },
       .plain { value := "0" }] },
   { name := "age", kind := .summary
     samples := [.summary { quantiles := .ofList [("0.5", "1")], sum := "2" }] },
   { name := "size", kind := .histogram
     samples := [.histogram { buckets := .ofList [("+Inf", "4")], count := "4" }, .histogram {}] },
   { name := "none" }]

/-- Two spans, the late one first, as they are captured. -/
def Files.late : Json :=
  .object [("traces", .list [.object [("spans", .list
    [.object [("startTime", .whole 2)], .object [("spanId", .text "a")]])]])]

/-- The text that holds these two spans. -/
def Files.lateText : String :=
  "\x7b\"traces\":[\x7b\"spans\":[\x7b\"startTime\":2\x7d,\x7b\"spanId\":\"a\"\x7d]\x7d]\x7d"

/-- A snapshot that only declares its size, as it was captured and as it is written: with its fields
in another order, and compactly. The two spans stand beside it. -/
def Files.rewritten : Files :=
  { files := [(["captured.json"], .text "\x7b\"size\": 1\x7d"),
      (["written.json"], .text "\x7b\"traces\":[],\"size\":1\x7d"),
      (["compact.json"], .text "\x7b\"size\":1,\"traces\":[]\x7d"),
      (["late.json"], .text lateText)] }

theorem Files.traces_captured :
    Load.traces .rewritten "captured.json" = .ok { size := some 1 } := by
  have hsource : Load.source "captured.json" "\x7b\"size\": 1\x7d" =
      ⟨(Json.object [("size", .whole 1)]).node, true⟩ := by
    rw [Load.source, show Load.isYaml "captured.json" = false by decide +kernel]
    cbv
  have hread : Snapshot.read (Json.object [("size", .whole 1)]).node = .ok { size := some 1 } :=
    Json.record_of_fills
      (.cons 0 rfl rfl (Json.set_ok (Json.optional_uint64_node (by decide)) _) .nil)
  refine Load.traces_eq_ok_iff.mpr ⟨"\x7b\"size\": 1\x7d", { size := some 1 }, ?_⟩
  rw [hsource]
  exact ⟨by decide +kernel, hread, rfl, rfl⟩

theorem Files.traces_late : Load.traces .rewritten "late.json" =
    .ok { traces := [{ spans := [{ spanId := "a" }, { startTime := .int 2 }] }] } := by
  have hsource : Load.source "late.json" lateText = ⟨late.node, true⟩ := by
    rw [Load.source, show Load.isYaml "late.json" = false by decide +kernel]
    cbv
  have hread : Snapshot.read late.node =
      .ok { traces := [{ spans := [{ startTime := .int 2 }, { spanId := "a" }] }] } := rfl
  have hlate : (Quantity.int 2).value = 2 := rfl
  have hearly : (default : Quantity).value = 0 := by decide +kernel
  refine Load.traces_eq_ok_iff.mpr
    ⟨lateText, { traces := [{ spans := [{ startTime := .int 2 }, { spanId := "a" }] }] }, ?_⟩
  rw [hsource]
  refine ⟨by decide +kernel, hread, rfl, ?_⟩
  simp [Snapshot.sortSpans, Trace.sortSpans, List.mergeSort, hlate, hearly]

theorem written_read_back_rewritten :
    Snapshot.read Snapshot.recorded.toJson.node = .ok .recorded ∧
    (Json.list (Family.shapes.map Family.toJson)).node.items Family.read = .ok Family.shapes ∧
    (Load.traces .rewritten "captured.json" = .ok { size := some 1 } ∧
      Load.traces .rewritten "written.json" = .ok { size := some 1 } ∧
        Load.traces .rewritten "compact.json" = .ok { size := some 1 }) ∧
    (∃ s, Load.traces .rewritten "late.json" = .ok s ∧
      s.traces.map (fun t => t.spans.map (·.spanId)) = [["a", ""]] ∧
        Snapshot.read s.toJson.node = .ok s) ∧
    Snapshot.recorded.traces.map (fun t => t.sortSpans.spans.map (·.spanId)) =
      [["cart", "pay"], []] ∧
        ∀ t ∈ Snapshot.recorded.traces, t.sortSpans.sortSpans = t.sortSpans := by
  obtain ⟨hsnapshot, hfamilies, hloaded, hsorted⟩ := written_read_back
  have hshapes : ∀ f ∈ Family.shapes, f.wellShaped = true := by decide +kernel
  have hwritten : Load.source "written.json" "\x7b\"traces\":[],\"size\":1\x7d" =
      ⟨(Json.object [("traces", .list []), ("size", .whole 1)]).node, true⟩ := by
    rw [Load.source, show Load.isYaml "written.json" = false by decide +kernel]
    cbv
  have hholds : (Snapshot.toJson { size := some 1 }).HeldBy
      (Json.object [("traces", .list []), ("size", .whole 1)]).node :=
    ⟨_, _, Json.heldByFields_nodeFields [("size", .whole 1), ("traces", .list [])],
      List.Perm.swap .., rfl⟩
  have hcompact : (Snapshot.toJson { size := some 1 }).compact =
      "\x7b\"size\":1,\"traces\":[]\x7d" := by decide +kernel
  have htext : Json.ofText (Snapshot.toJson { size := some 1 }).compact =
      .ok (Snapshot.toJson { size := some 1 }) := by
    rw [hcompact]
    cbv
  obtain ⟨-, hheld, hagain⟩ := hloaded _ _ _ Files.traces_captured
  obtain ⟨hlate, -⟩ := hloaded _ _ _ Files.traces_late
  have hpay : (Quantity.text " 17 ").value = 17 := by decide +kernel
  have hcart : (Quantity.int (-5)).value = -5 := rfl
  refine ⟨hsnapshot _ Snapshot.writable_recorded, hfamilies _ hshapes,
    ⟨Files.traces_captured, hheld _ _ _ _ (by decide +kernel) hwritten hholds,
      hagain _ _ (by decide +kernel) ?_ htext⟩,
    ⟨_, Files.traces_late, rfl, hlate⟩, ?_, fun t _ => (hsorted t).1⟩
  · rw [hcompact]
    decide +kernel
  · simp [Snapshot.recorded, Trace.sortSpans, List.mergeSort, hpay, hcart]

end Assay
