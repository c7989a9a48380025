import Assay.Proofs.Trace.Pairing

/-!
# Spans field by field

An expected span admits an actual one exactly if each of its predicates accepts the text that
stands in its place: those of single fields, of tags, and of the references that are looked for.
So no predicate is passed over on the way to success.
-/

namespace Assay

/-- The texts of a reference. -/
def Reference.texts (r : Reference) : List String :=
  [r.refType, r.spanId, r.traceId]

/-- The texts of a span that are compared. What the value of a tag counts for is left open. -/
def Span.texts (tag : String → String → String) (s : Span) : List String :=
  [s.spanId, s.duration.written, s.flags.written, s.operationName, s.startTime.written,
    s.parentSpanId] ++
  (s.tags.entries.map fun e => tag e.1 e.2) ++ s.references.flatMap Reference.texts

namespace Judge

variable {j : Judge}

/-! ## Tags -/

theorem tagEntries_eq_ok_iff {actual : Dictionary String} {es : List (String × String)} :
    j.tagEntries actual es = .ok () ↔
      ∀ e ∈ es, j.EntryHolds actual e.1 (j.tagPredicate e.1 e.2) := by
  induction es with
  | nil => simp [tagEntries]
  | cons e es ih =>
    obtain ⟨key, predicate⟩ := e
    rw [List.forall_mem_cons, ← ih, tagEntries, EntryHolds]
    cases hv : actual.get? key with
    | none => simp
    | some v => simp [bind_unit_eq_ok_iff, value_eq_ok_iff]

/-- The keys are the same, and all predicates accept. -/
structure TagsHold (j : Judge) (expected actual : Dictionary String) : Prop where
  size : expected.size = actual.size
  entries : ∀ e ∈ expected.entries, j.EntryHolds actual e.1 (j.tagPredicate e.1 e.2)

theorem tags_eq_ok_iff {expected actual : Dictionary String} :
    j.tags expected actual = .ok () ↔ j.TagsHold expected actual := by
  unfold tags
  split
  · rename_i hsize
    exact iff_of_false (by simp) fun h => hsize h.size
  · rename_i hsize
    rw [tagEntries_eq_ok_iff]
    exact ⟨fun h => ⟨Classical.not_not.mp hsize, h⟩, fun h => h.entries⟩

/-! ## References -/

/-- The predicates of an expected reference accept the texts of an actual one. -/
structure ReferenceHolds (j : Judge) (expected actual : Reference) : Prop where
  refType : j.accepts expected.refType actual.refType = true
  spanId : j.accepts expected.spanId actual.spanId = true
  traceId : j.accepts expected.traceId actual.traceId = true

theorem reference_eq_ok_iff {expected actual : Reference} :
    j.reference expected actual = .ok () ↔ j.ReferenceHolds expected actual := by
  simp only [reference, bind_unit_eq_ok_iff, field_eq_ok_iff]
  exact ⟨fun ⟨ht, hs, hi⟩ => ⟨ht, hs, hi⟩, fun ⟨ht, hs, hi⟩ => ⟨ht, hs, hi⟩⟩

theorem findReference_eq_ok_iff {expected : Reference} {pool : List Reference} :
    j.findReference expected pool = .ok () ↔ ∃ a ∈ pool, j.ReferenceHolds expected a := by
  induction pool with
  | nil => simp [findReference]
  | cons a pool ih =>
    rw [findReference, List.exists_mem_cons_iff, ← ih, ← reference_eq_ok_iff]
    cases j.reference expected a with
    | ok u => simp
    | error e => simp [mapError_eq_ok_iff]

theorem referenceEntries_eq_ok_iff {actual es : List Reference} :
    j.referenceEntries actual es = .ok () ↔ ∀ e ∈ es, ∃ a ∈ actual, j.ReferenceHolds e a := by
  induction es with
  | nil => simp [referenceEntries]
  | cons e es ih =>
    rw [List.forall_mem_cons, ← ih, referenceEntries, ← findReference_eq_ok_iff]
    cases j.findReference e actual <;> simp

theorem references_eq_ok_iff {expected actual : List Reference} :
    j.references expected actual = .ok () ↔ ∀ e ∈ expected, ∃ a ∈ actual, j.ReferenceHolds e a := by
  unfold references
  cases expected with
  | nil => simp
  | cons e es =>
    cases actual with
    | nil => exact iff_of_false (by simp) fun h => by simpa using h e List.mem_cons_self
    | cons a as => exact referenceEntries_eq_ok_iff

/-! ## Whole spans -/

/-- What an expected span says holds of an actual one. -/
structure SpanHolds (j : Judge) (expected actual : Span) : Prop where
  spanId : j.accepts expected.spanId actual.spanId = true
  duration : j.accepts expected.duration.written actual.duration.written = true
  flags : j.accepts expected.flags.written actual.flags.written = true
  operationName : j.accepts expected.operationName actual.operationName = true
  startTime : j.accepts expected.startTime.written actual.startTime.written = true
  parentSpanId : j.accepts expected.parentSpanId actual.parentSpanId = true
  tags : j.TagsHold expected.tags actual.tags
  /-- Several expected references may be found in one actual reference. -/
  references : ∀ e ∈ expected.references, ∃ a ∈ actual.references, j.ReferenceHolds e a

/-- **A span is admitted exactly if all that is said of it holds.** -/
theorem admits_iff {expected actual : Span} :
    j.Admits expected actual ↔ j.SpanHolds expected actual := by
  simp only [Admits, span, bind_unit_eq_ok_iff, value_eq_ok_iff, tags_eq_ok_iff,
    references_eq_ok_iff]
  constructor
  · rintro ⟨hspan, hduration, hflags, hname, hstart, hparent, htags, hreferences⟩
    exact ⟨hspan, hduration, hflags, hname, hstart, hparent, htags, hreferences⟩
  · rintro ⟨hspan, hduration, hflags, hname, hstart, hparent, htags, hreferences⟩
    exact ⟨hspan, hduration, hflags, hname, hstart, hparent, htags, hreferences⟩

/-- Every predicate of a span that is admitted has accepted some text. -/
theorem SpanHolds.accepts {expected actual : Span} (h : j.SpanHolds expected actual) :
    ∀ text ∈ expected.texts j.tagPredicate, ∃ v, j.accepts text v = true := by
  intro text htext
  rw [Span.texts, List.mem_append, List.mem_append, List.mem_map, List.mem_flatMap] at htext
  rcases htext with (hfield | ⟨e, he, rfl⟩) | ⟨r, hr, hin⟩
  · simp only [List.mem_cons, List.not_mem_nil, or_false] at hfield
    rcases hfield with rfl | rfl | rfl | rfl | rfl | rfl
    · exact ⟨_, h.spanId⟩
    · exact ⟨_, h.duration⟩
    · exact ⟨_, h.flags⟩
    · exact ⟨_, h.operationName⟩
    · exact ⟨_, h.startTime⟩
    · exact ⟨_, h.parentSpanId⟩
  · obtain ⟨v, -, hv⟩ := h.tags.entries e he
    exact ⟨v, hv⟩
  · obtain ⟨a, -, ha⟩ := h.references r hr
    simp only [Reference.texts, List.mem_cons, List.not_mem_nil, or_false] at hin
    rcases hin with rfl | rfl | rfl
    · exact ⟨_, ha.refType⟩
    · exact ⟨_, ha.spanId⟩
    · exact ⟨_, ha.traceId⟩

end Judge

end Assay
