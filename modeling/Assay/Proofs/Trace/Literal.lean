import Assay.Proofs.Trace.Fields
import Assay.Proofs.Trace.Order

/-!
# Literal traces

Traces whose texts stand for themselves are met by themselves. Neither equal spans and traces nor
the order of the spans stand in the way: whatever may be bound to a span first, there is a binding,
and an expected trace never finds a trace before its own that is left.
-/

namespace Assay

/-- A span whose texts stand for themselves. The expected value of one tag is expanded, so that
value refers to nothing. -/
@[mk_iff]
structure Span.IsLiteral (s : Span) : Prop where
  texts : ∀ text ∈ s.texts fun _ value => value, Predicate.IsLiteral text
  url : ∀ e ∈ s.tags.entries, e.1 = Judge.urlTag → '$' ∉ e.2.toList

instance (s : Span) : Decidable s.IsLiteral :=
  decidable_of_iff' _ (Span.isLiteral_iff s)

namespace Judge

open List (Forall₂)

variable {env : Environment} {engine : Regex.Engine} {pick : SideBySide.Pick Discrepancy}

/-! ## A span and itself -/

/-- The value of a tag counts as it stands. -/
theorem tagPredicate_of_isLiteral {s : Span} (h : s.IsLiteral) {e : String × String}
    (he : e ∈ s.tags.entries) : tagPredicate { env, engine, pick } e.1 e.2 = e.2 := by
  rw [tagPredicate]
  split
  · rename_i hkey
    exact env.expandText_of_notMem (h.url e he hkey)
  · rfl

theorem tagsHold_self {s : Span} (h : s.IsLiteral) :
    TagsHold { env, engine, pick } s.tags s.tags := by
  refine ⟨rfl, fun e he => ?_⟩
  have hvalue : Predicate.IsLiteral e.2 := h.texts e.2 (by
    rw [Span.texts, List.mem_append, List.mem_append, List.mem_map]
    exact .inl (.inr ⟨e, he, rfl⟩))
  rw [tagPredicate_of_isLiteral h he]
  exact entryHolds_of_mem he (accepts_self hvalue)

theorem referenceHolds_self {r : Reference} (h : ∀ text ∈ r.texts, Predicate.IsLiteral text) :
    ReferenceHolds { env, engine, pick } r r where
  refType := accepts_self (h _ (by simp [Reference.texts]))
  spanId := accepts_self (h _ (by simp [Reference.texts]))
  traceId := accepts_self (h _ (by simp [Reference.texts]))

/-- **A literal span admits itself.** -/
theorem admits_self {s : Span} (h : s.IsLiteral) : Admits { env, engine, pick } s s := by
  have hfield {text : String} (hmem : text ∈ [s.spanId, s.duration.written, s.flags.written,
      s.operationName, s.startTime.written, s.parentSpanId]) :
      accepts { env, engine, pick } text text = true :=
    accepts_self (h.texts text (List.mem_append_left _ (List.mem_append_left _ hmem)))
  have hreference : ∀ r ∈ s.references, ReferenceHolds { env, engine, pick } r r := fun r hr =>
    referenceHolds_self fun text htext =>
      h.texts text (List.mem_append_right _ (List.mem_flatMap.mpr ⟨r, hr, htext⟩))
  exact admits_iff.mpr
    { spanId := hfield (by simp)
      duration := hfield (by simp)
      flags := hfield (by simp)
      operationName := hfield (by simp)
      startTime := hfield (by simp)
      parentSpanId := hfield (by simp)
      tags := tagsHold_self h
      references := fun r hr => ⟨r, hr, hreference r hr⟩ }

/-! ## Traces -/

/-- The order of the spans does not count. -/
theorem matches_of_perm {t t' : Trace} (h : ∀ s ∈ t.spans, s.IsLiteral)
    (hperm : t.spans.Perm t'.spans) : Matches { env, engine, pick } t t' := by
  have hself : Bindable (Admits { env, engine, pick }) t.spans t.spans :=
    bindable_self fun s hs => admits_self (h s hs)
  exact (spans_eq_ok_iff _ t t').mpr ⟨hperm.length_eq, hself.perm (.refl _) hperm⟩

/-- Traces that match one by one, in the same order, are bound. -/
theorem traces_of_forall₂ {j : Judge} {expected actual : List Trace} (hne : expected ≠ [])
    (h : Forall₂ j.Matches expected actual) : j.traces expected actual = .ok () := by
  obtain ⟨slots, hbound, -⟩ := exists_bound_in_front h []
  rw [List.append_nil] at hbound
  exact traces_eq_ok_iff.mpr ⟨hne, bindTraces_eq_ok_iff.mpr ⟨slots, hbound⟩⟩

/-- **Literal traces satisfy themselves**, however the spans of each trace are reordered. -/
theorem traces_literal (env : Environment) (engine : Regex.Engine)
    (pick : SideBySide.Pick Discrepancy) {expected actual : List Trace} (hne : expected ≠ [])
    (hliteral : ∀ t ∈ expected, ∀ s ∈ t.spans, s.IsLiteral)
    (hperm : Forall₂ (fun t t' => t.spans.Perm t'.spans) expected actual) :
    traces { env, engine, pick } expected actual = .ok () := by
  -- every trace matches the one in its own place, so nothing is taken away from a later one
  refine traces_of_forall₂ hne ?_
  clear hne
  induction hperm with
  | nil => exact .nil
  | cons h _ ih =>
    obtain ⟨hfirst, hrest⟩ := List.forall_mem_cons.mp hliteral
    exact .cons (matches_of_perm hfirst h) (ih hrest)

/-- A request with the look-ups that it led to, of which one was made twice. -/
def recordedSpans : List Span :=
  [{ spanId := "a1", operationName := "GET /cart", duration := .int 1200,
     startTime := .text "17", tags := .ofList [(urlTag, "http://shop/cart"), ("note", "")],
     references := [{ refType := "CHILD_OF", spanId := "b2" }] },
   { operationName := "lookup" }, { operationName := "lookup" }]

/-- The same trace twice, and a trace without spans. -/
def recordedTraces : List Trace :=
  [{ spans := recordedSpans }, { spans := recordedSpans }, {}]

/-- The same traces, with the spans of the first in opposite order. -/
def reorderedTraces : List Trace :=
  [{ spans := recordedSpans.reverse }, { spans := recordedSpans }, {}]

theorem traces_literal_recorded :
    recordedTraces ≠ [] ∧ (∀ t ∈ recordedTraces, ∀ s ∈ t.spans, s.IsLiteral) ∧
    Forall₂ (fun t t' => t.spans.Perm t'.spans) recordedTraces reorderedTraces ∧
    traces { env := fun _ => none } recordedTraces reorderedTraces = .ok () := by
  have hne : recordedTraces ≠ [] := List.cons_ne_nil _ _
  have hliteral : ∀ t ∈ recordedTraces, ∀ s ∈ t.spans, s.IsLiteral := by decide +kernel
  have hperm : Forall₂ (fun t t' => t.spans.Perm t'.spans) recordedTraces reorderedTraces :=
    .cons (List.reverse_perm _).symm (.cons (.refl _) (.cons (.refl _) .nil))
  exact ⟨hne, hliteral, hperm, traces_literal _ .standard .first hne hliteral hperm⟩

end Judge

end Assay
