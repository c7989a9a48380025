import Assay.Proofs.Shared
import Assay.Trace.Shared

/-!
# Matching traces with shared predicates

Function by function, what matching with shared predicates may come to is what the judge says. Up to
the candidates of one span there is one outcome, from the spans of a trace on one for each choice
among failures.
-/

namespace Assay.Shared

open Assignment
open Predicate (Work)
open SideBySide (Pick)

variable {engine : Regex.Engine} (env : Environment) (pick : Pick Discrepancy)

/-! ## Spans -/

theorem outcomes_tagEntries (actual : Dictionary String) (es : List (String × String)) :
    (tagEntries env actual es).run.outcomes engine =
      [Judge.tagEntries { env, engine, pick } actual es] := by
  induction es with
  | nil => rfl
  | cons e es ih =>
    obtain ⟨key, predicate⟩ := e
    rw [tagEntries, Judge.tagEntries]
    cases actual.get? key with
    | none => rfl
    | some v =>
      simp only [outcomes_run_bind, outcomes_value env pick, List.flatMap_singleton, ih,
        onward_singleton]
      rfl

theorem outcomes_tags (expected actual : Dictionary String) :
    (tags env expected actual).run.outcomes engine =
      [Judge.tags { env, engine, pick } expected actual] := by
  unfold tags Judge.tags
  split
  · rfl
  · exact outcomes_tagEntries env pick actual expected.entries

theorem outcomes_reference (expected actual : Reference) :
    (reference expected actual).run.outcomes engine =
      [Judge.reference { env, engine, pick } expected actual] := by
  simp only [reference, Judge.reference, outcomes_run_bind, outcomes_field env pick,
    List.flatMap_singleton, onward_singleton]

theorem outcomes_findReference (expected : Reference) (candidates : List Reference) :
    (findReference expected candidates).run.outcomes engine =
      [Judge.findReference { env, engine, pick } expected candidates] := by
  induction candidates with
  | nil => rfl
  | cons candidate rest ih =>
    rw [findReference, Judge.findReference, outcomes_run_mk, Work.outcomes_bind,
      outcomes_reference env pick, List.flatMap_singleton]
    cases Judge.reference { env, engine, pick } expected candidate with
    | ok _ => rfl
    | error e => simp only [Work.outcomes_bind, Work.outcomes_pure, ih, List.flatMap_singleton]

theorem outcomes_referenceEntries (actual expected : List Reference) :
    (referenceEntries actual expected).run.outcomes engine =
      [Judge.referenceEntries { env, engine, pick } actual expected] := by
  induction expected with
  | nil => rfl
  | cons e rest ih =>
    rw [referenceEntries, Judge.referenceEntries, outcomes_run_mk, Work.outcomes_bind,
      outcomes_findReference env pick, List.flatMap_singleton]
    cases Judge.findReference { env, engine, pick } e actual with
    | ok _ => exact ih
    | error reasons => rfl

theorem outcomes_references (expected actual : List Reference) :
    (references expected actual).run.outcomes engine =
      [Judge.references { env, engine, pick } expected actual] := by
  unfold references Judge.references
  split
  · rfl
  · split
    · rfl
    · exact outcomes_referenceEntries env pick actual expected

theorem outcomes_span (expected actual : Span) :
    (span env expected actual).run.outcomes engine =
      [Judge.span { env, engine, pick } expected actual] := by
  simp only [span, Judge.span, outcomes_run_bind, outcomes_value env pick, outcomes_tags env pick,
    outcomes_references env pick, List.flatMap_singleton, onward_singleton]

theorem outcomes_named (expected : Span) (pool : List (Span × Nat)) :
    (named expected pool).outcomes engine = [pool.filter fun s =>
      Judge.accepts { env, engine, pick } expected.operationName s.1.operationName] := by
  induction pool with
  | nil => rfl
  | cons s pool ih =>
    simp only [named, Work.outcomes_bind, Work.outcomes_pure, outcomes_accepts env pick, ih,
      List.flatMap_singleton, List.filter_cons]

theorem outcomes_trySpans (expected : Span) (pool : List (Span × Nat)) :
    (trySpans env expected pool).outcomes engine =
      [Judge.trySpans { env, engine, pick } expected pool] := by
  induction pool with
  | nil => rfl
  | cons s pool ih =>
    obtain ⟨s, slot⟩ := s
    simp only [trySpans, Judge.trySpans, Work.outcomes_bind, outcomes_span env pick, ih,
      List.flatMap_singleton]
    cases Judge.span { env, engine, pick } expected s <;> rfl

theorem outcomes_spanCandidates (expected : Span) (pool : List Span) :
    (spanCandidates env expected pool).run.outcomes engine =
      [Judge.spanCandidates { env, engine, pick } expected pool] := by
  rw [spanCandidates, Judge.spanCandidates, outcomes_run_mk, Work.outcomes_bind,
    outcomes_named env pick, List.flatMap_singleton]
  dsimp only
  split
  · rw [Work.outcomes_bind, outcomes_value env pick, List.flatMap_singleton]
    cases Judge.value { env, engine, pick } "operationName" expected.operationName _ <;> rfl
  · rw [Work.outcomes_bind, outcomes_trySpans env pick, List.flatMap_singleton]
    split <;> simp_all

/-! ## Traces -/

/-- The choice is which of several lonely spans to tell of. -/
theorem upToPick_spans (expected actual : Trace) :
    UpToPick engine (spans env expected actual).run fun pick =>
      Judge.spans { env, engine, pick } expected actual := by
  unfold spans Judge.spans
  split
  · exact .of_outcomes fun _ => rfl
  · refine (UpToPick.forEach (g := fun pick s => Judge.spanCandidates { env, engine, pick } s
      actual.spans) (fun pick s => outcomes_spanCandidates env pick s actual.spans) _).bind
      fun candidates => .of_outcomes fun pick => ?_
    cases assign candidates actual.spans.length <;> rfl

section FirstFit

variable {j : Judge} {expected : Trace} {taken : List Nat}

/-- What was tried before does not count once another trace is tried. -/
theorem firstFit_forgets {pool : List (Trace × Nat)} (h : ∃ p ∈ pool, p.2 ∉ taken)
    (last last' : Option (String × Discrepancy)) :
    j.firstFit expected taken last pool = j.firstFit expected taken last' pool := by
  induction pool with
  | nil => simp at h
  | cons p pool ih =>
    obtain ⟨t, slot⟩ := p
    rw [Judge.firstFit, Judge.firstFit]
    by_cases hslot : taken.contains slot
    · rw [if_pos hslot, if_pos hslot]
      refine ih ?_
      simpa [show slot ∈ taken by simpa using hslot] using h
    · rw [if_neg hslot, if_neg hslot]

theorem firstFit_of_taken {pool : List (Trace × Nat)} (h : ∀ p ∈ pool, p.2 ∈ taken)
    (last : Option (String × Discrepancy)) :
    j.firstFit expected taken last pool = .error last := by
  induction pool with
  | nil => rfl
  | cons p pool ih =>
    rw [List.forall_mem_cons] at h
    rw [Judge.firstFit, if_pos (by simpa using h.1), ih h.2]

theorem outcomes_firstFit_of_taken {pool : List (Trace × Nat)} (h : ∀ p ∈ pool, p.2 ∈ taken)
    (last : Option (String × Discrepancy)) :
    (firstFit env expected taken last pool).run.outcomes engine = [.error last] := by
  induction pool with
  | nil => rfl
  | cons p pool ih =>
    rw [List.forall_mem_cons] at h
    rw [firstFit, if_pos (by simpa using h.1), ih h.2]

end FirstFit

/-- The choice is which failure to tell of in the last trace that is tried. -/
theorem upToPick_firstFit (expected : Trace) (taken : List Nat)
    (last : Option (String × Discrepancy)) (pool : List (Trace × Nat)) :
    UpToPick engine (firstFit env expected taken last pool).run fun pick =>
      Judge.firstFit { env, engine, pick } expected taken last pool := by
  induction pool generalizing last with
  | nil => exact .of_outcomes fun _ => rfl
  | cons p pool ih =>
    obtain ⟨t, slot⟩ := p
    unfold firstFit Judge.firstFit
    split
    · exact ih last
    by_cases hfree : ∃ p ∈ pool, p.2 ∉ taken
    · -- another trace is tried, so the failure of this one is not told
      refine (upToPick_spans env expected t).orElse
        (fun _ => ⟨slot, rfl, fun pick hf => by rw [hf]⟩)
        fun e => ⟨_, ih (some (t.traceId, e)), fun pick e' hf => ?_⟩
      rw [hf]
      exact firstFit_forgets hfree _ _
    · push Not at hfree
      refine (upToPick_spans env expected t).andThen
        (fun _ => ⟨fun _ => .ok slot, .of_outcomes fun _ => rfl, fun pick hf => by rw [hf]⟩)
        fun e => ⟨some (t.traceId, e), outcomes_firstFit_of_taken env hfree _, fun pick hf => ?_⟩
      rw [hf]
      exact firstFit_of_taken hfree _

theorem upToPick_bindTraces (actual : List Trace) (taken : List Nat) (expected : List Trace) :
    UpToPick engine (bindTraces env actual taken expected).run fun pick =>
      Judge.bindTraces { env, engine, pick } actual taken expected := by
  induction expected generalizing taken with
  | nil => exact .of_outcomes fun _ => rfl
  | cons e rest ih =>
    unfold bindTraces Judge.bindTraces
    refine (upToPick_firstFit env e taken none actual.zipIdx).andThen
      (fun slot => ⟨_, ih (slot :: taken), fun pick hf => by rw [hf]⟩) fun last => ?_
    rcases last with _ | ⟨traceId, cause⟩
    · exact ⟨_, rfl, fun pick hf => by rw [hf]⟩
    · exact ⟨_, rfl, fun pick hf => by rw [hf]⟩

/-- **Matching traces with shared predicates** comes to what the judge says, whatever choice he
makes. -/
theorem upToPick_traces (expected actual : List Trace) :
    UpToPick engine (traces env expected actual).run fun pick =>
      Judge.traces { env, engine, pick } expected actual := by
  unfold traces Judge.traces
  split
  · exact .of_outcomes fun _ => rfl
  · exact upToPick_bindTraces env actual [] expected

end Assay.Shared
