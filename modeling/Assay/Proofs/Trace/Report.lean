import Assay.Proofs.Trace.Fields

/-!
# What is reported of a span

An expected span makes demands on an actual one: its fields first, then the tags by ascending key,
and at last the references. The discrepancy that is reported is that of the first demand that is not
met.
-/

namespace Assay

open List (Forall₂)

/-! ## Demands -/

/-- A text that is compared under a name. -/
structure Comparison where
  name : String
  predicate : String
  value : String

/-- What is compared of two references. -/
def Reference.comparisons (expected actual : Reference) : List Comparison :=
  [⟨"refType", expected.refType, actual.refType⟩, ⟨"spanId", expected.spanId, actual.spanId⟩,
    ⟨"traceId", expected.traceId, actual.traceId⟩]

/-- The text for which a quantity stands in a comparison: a number stands for its decimal form, with
a minus sign if it is negative, and a text for itself. -/
def Quantity.decimal : Quantity → String
  | .int (.ofNat n) => String.ofList (Nat.toDigits 10 n)
  | .int (.negSucc n) => "-" ++ String.ofList (Nat.toDigits 10 (n + 1))
  | .text s => s

theorem Quantity.written_eq_decimal : ∀ q : Quantity, q.written = q.decimal
  | .int (.ofNat _) => rfl
  | .int (.negSucc _) => rfl
  | .text _ => rfl

namespace Span

/-- The single fields that are compared of two spans, numbers in their decimal form. -/
def comparisons (expected actual : Span) : List Comparison :=
  [⟨"spanId", expected.spanId, actual.spanId⟩,
    ⟨"duration", expected.duration.decimal, actual.duration.decimal⟩,
    ⟨"flags", expected.flags.decimal, actual.flags.decimal⟩,
    ⟨"operationName", expected.operationName, actual.operationName⟩,
    ⟨"startTime", expected.startTime.decimal, actual.startTime.decimal⟩,
    ⟨"parentSpanId", expected.parentSpanId, actual.parentSpanId⟩]

/-- A demand that an expected span makes on an actual one. -/
inductive Demand where
  /-- A field satisfies its predicate. -/
  | field (c : Comparison)
  /-- There are as many tags as expected. -/
  | tagCount
  /-- There is a tag, and it satisfies its predicate. -/
  | tag (key predicate : String)
  /-- There is a reference. -/
  | reference (r : Reference)

/-- The demands on the tags, those on single tags by ascending key. -/
def tagDemands (expected : Span) : List Demand :=
  .tagCount :: expected.tags.entries.map fun e => .tag e.1 e.2

/-- The demands of an expected span in their order. -/
def demands (expected actual : Span) : List Demand :=
  (expected.comparisons actual).map .field ++
    (expected.tagDemands ++ expected.references.map .reference)

end Span

namespace Judge

variable {j : Judge}

/-! ## What can be wrong -/

/-- The predicate does not accept the value, and the error says so under the name. -/
def Rejects (j : Judge) (c : Comparison) (e : FieldError) : Prop :=
  e.field = c.name ∧ j.check c.predicate c.value = .error e.cause

/-- Why an actual reference is not the expected one: the first of its fields that is rejected. -/
def OtherReference (j : Judge) (expected actual : Reference) (reason : Reference × FieldError) :
    Prop :=
  reason.1 = actual ∧ FirstFault j.Rejects (expected.comparisons actual) reason.2

/-- What is wrong with a demand that an actual span does not meet. -/
inductive SpanFault (j : Judge) (expected actual : Span) : Span.Demand → Discrepancy → Prop where
  | field {c : Comparison} {e : FieldError} (h : j.Rejects c e) :
      SpanFault j expected actual (.field c) (.field e)
  | tagCount (h : expected.tags.size ≠ actual.tags.size) :
      SpanFault j expected actual .tagCount (.size "tags" expected.tags.size actual.tags.size)
  | noTag {key predicate : String} (h : actual.tags.get? key = none) :
      SpanFault j expected actual (.tag key predicate) (.missingKey "tag" key)
  /-- Only the expected address of a request may refer to the environment. -/
  | tag {key predicate value : String} {e : FieldError} (hvalue : actual.tags.get? key = some value)
      (h : j.Rejects ⟨"tag[" ++ key ++ "]",
        if key = "http.url" then j.env.expandText predicate else predicate, value⟩ e) :
      SpanFault j expected actual (.tag key predicate) (.field e)
  | noReferences {r : Reference} (h : actual.references = []) :
      SpanFault j expected actual (.reference r) .noReferences
  /-- Every actual reference is another one, and the reasons tell why. -/
  | reference {r : Reference} {reasons : List (Reference × FieldError)}
      (hsome : actual.references ≠ [])
      (h : Forall₂ (j.OtherReference r) actual.references reasons) :
      SpanFault j expected actual (.reference r) (.referenceNotFound r reasons)

theorem rightUnique_rejects : Relator.RightUnique j.Rejects := by
  rintro c ⟨name, cause⟩ ⟨name', cause'⟩ ⟨rfl, hcause⟩ ⟨rfl, hcause'⟩
  rw [hcause] at hcause'
  cases hcause'
  rfl

theorem rightUnique_otherReference (expected : Reference) :
    Relator.RightUnique (j.OtherReference expected) := fun _ _ _ h h' =>
  Prod.ext (h.1.trans h'.1.symm) (h.2.unique rightUnique_rejects h'.2)

theorem rightUnique_spanFault (expected actual : Span) :
    Relator.RightUnique (j.SpanFault expected actual) := by
  intro demand d d' h h'
  cases h with
  | field h =>
    cases h' with
    | field h' => rw [rightUnique_rejects h h']
  | tagCount =>
    cases h'
    rfl
  | noTag h =>
    cases h' with
    | noTag => rfl
    | tag hvalue =>
      rw [h] at hvalue
      cases hvalue
  | tag hvalue h =>
    cases h' with
    | noTag hnone =>
      rw [hnone] at hvalue
      cases hvalue
    | tag hvalue' h' =>
      rw [hvalue] at hvalue'
      cases hvalue'
      rw [rightUnique_rejects h h']
  | noReferences h =>
    cases h' with
    | noReferences => rfl
    | reference hsome => exact absurd h hsome
  | reference hsome h =>
    cases h' with
    | noReferences hnone => exact absurd hnone hsome
    | reference _ h' => rw [(rightUnique_otherReference _).forall₂ h h']

/-! ## What checks report -/

variable {expected actual : Span}

theorem field_eq_error_iff {c : Comparison} {e : FieldError} :
    j.field c.name c.predicate c.value = .error e ↔ j.Rejects c e := by
  obtain ⟨name, cause⟩ := e
  rw [field, Rejects]
  cases j.check c.predicate c.value <;> simp [Except.mapError, eq_comm]

theorem value_eq_error_iff {c : Comparison} {d : Discrepancy} :
    j.value c.name c.predicate c.value = .error d ↔ ∃ e, j.Rejects c e ∧ d = .field e := by
  rw [value]
  cases h : j.field c.name c.predicate c.value with
  | ok u => simp [Except.mapError, ← field_eq_error_iff, h]
  | error e => simp [Except.mapError, ← field_eq_error_iff, h, eq_comm]

theorem reports_reference (expected actual : Reference) :
    Reports j.Rejects (expected.comparisons actual) (j.reference expected actual) := by
  have hfield (c : Comparison) : Reports j.Rejects [c] (j.field c.name c.predicate c.value) :=
    .single fun _ => field_eq_error_iff
  exact (hfield _).append ((hfield _).append (hfield ⟨"traceId", _, _⟩))

theorem reference_eq_error_iff {expected actual : Reference} {e : FieldError} :
    j.reference expected actual = .error e ↔ j.OtherReference expected actual (actual, e) := by
  rw [(reports_reference expected actual).eq_error_iff rightUnique_rejects]
  exact ⟨fun h => ⟨rfl, h⟩, fun h => h.2⟩

/-- A reference that is not found is told from every actual one, in their order. -/
theorem findReference_eq_error_iff {expected : Reference} {pool : List Reference}
    {reasons : List (Reference × FieldError)} :
    j.findReference expected pool = .error reasons ↔
      Forall₂ (j.OtherReference expected) pool reasons := by
  induction pool generalizing reasons with
  | nil => simp [findReference, eq_comm]
  | cons a pool ih =>
    rw [findReference, List.forall₂_cons_left_iff]
    cases hreference : j.reference expected a with
    | ok u =>
      refine iff_of_false (by simp) ?_
      rintro ⟨⟨a', e⟩, rest, hother, -, -⟩
      obtain rfl : a' = a := hother.1
      rw [reference_eq_error_iff.mpr hother] at hreference
      cases hreference
    | error e =>
      have hother := reference_eq_error_iff.mp hreference
      cases hrest : j.findReference expected pool with
      | ok u =>
        refine iff_of_false (by simp [Except.mapError]) ?_
        rintro ⟨reason, rest, -, hall, -⟩
        rw [ih.mpr hall] at hrest
        cases hrest
      | error rest =>
        have hall := ih.mp hrest
        constructor
        · intro h
          cases h
          exact ⟨(a, e), rest, hother, hall, rfl⟩
        · rintro ⟨reason, rest', hother', hall', rfl⟩
          obtain rfl := rightUnique_otherReference _ hother hother'
          obtain rfl := (rightUnique_otherReference _).forall₂ hall hall'
          rfl

theorem reports_referenceEntries (hsome : actual.references ≠ []) (es : List Reference) :
    Reports (j.SpanFault expected actual) (es.map .reference)
      (j.referenceEntries actual.references es) := by
  induction es with
  | nil => exact .nil
  | cons r es ih =>
    rw [referenceEntries]
    cases hfind : j.findReference r actual.references with
    | error reasons =>
      exact .error (.here (.reference hsome (findReference_eq_error_iff.mp hfind)))
    | ok u =>
      have hfound : Reports (j.SpanFault expected actual) [.reference r] (.ok ()) := by
        refine .ok fun d hd e hfault => ?_
        obtain rfl := List.mem_singleton.mp hd
        cases hfault with
        | noReferences hnone => exact hsome hnone
        | reference _ hall =>
          rw [findReference_eq_error_iff.mpr hall] at hfind
          cases hfind
      exact hfound.append ih

theorem reports_references :
    Reports (j.SpanFault expected actual) (expected.references.map .reference)
      (j.references expected.references actual.references) := by
  rw [references]
  cases hexpected : expected.references with
  | nil => exact .nil
  | cons r rs =>
    by_cases hnone : actual.references = []
    · simp only [hnone, List.isEmpty_cons, List.isEmpty_nil, Bool.false_eq_true, if_false, if_true]
      exact .error (.here (.noReferences hnone))
    · simp only [List.isEmpty_cons, List.isEmpty_iff, hnone, Bool.false_eq_true, if_false]
      exact reports_referenceEntries hnone (r :: rs)

theorem reports_tagEntries (es : List (String × String)) :
    Reports (j.SpanFault expected actual) (es.map fun e => .tag e.1 e.2)
      (j.tagEntries actual.tags es) := by
  induction es with
  | nil => exact .nil
  | cons e es ih =>
    obtain ⟨key, predicate⟩ := e
    rw [tagEntries]
    cases hvalue : actual.tags.get? key with
    | none => exact .error (.here (.noTag hvalue))
    | some v =>
      have htag : Reports (j.SpanFault expected actual) [.tag key predicate]
          (j.value ("tag[" ++ key ++ "]") (j.tagPredicate key predicate) v) := by
        refine .single fun d => (value_eq_error_iff (c := ⟨_, _, v⟩)).trans ⟨?_, fun h => ?_⟩
        · rintro ⟨e, he, rfl⟩
          exact .tag hvalue he
        · cases h with
          | noTag hnone =>
            rw [hnone] at hvalue
            cases hvalue
          | tag hvalue' he =>
            rw [hvalue] at hvalue'
            cases hvalue'
            exact ⟨_, he, rfl⟩
      exact htag.append ih

theorem reports_tags :
    Reports (j.SpanFault expected actual) expected.tagDemands
      (j.tags expected.tags actual.tags) := by
  rw [tags]
  split
  · rename_i hsize
    exact .error (.here (.tagCount hsize))
  · rename_i hsize
    have hcount : Reports (j.SpanFault expected actual) [.tagCount] (.ok ()) := by
      refine .ok fun d hd e hfault => ?_
      obtain rfl := List.mem_singleton.mp hd
      cases hfault with
      | tagCount hne => exact hsize hne
    exact hcount.append (reports_tagEntries expected.tags.entries)

theorem reports_comparison (c : Comparison) :
    Reports (j.SpanFault expected actual) [.field c] (j.value c.name c.predicate c.value) := by
  refine .single fun d => value_eq_error_iff.trans ⟨?_, fun h => ?_⟩
  · rintro ⟨e, he, rfl⟩
    exact .field he
  · cases h with
    | field he => exact ⟨_, he, rfl⟩

theorem reports_span (expected actual : Span) :
    Reports (j.SpanFault expected actual) (expected.demands actual) (j.span expected actual) := by
  have hfield (c : Comparison) :
      Reports (j.SpanFault expected actual) [.field c] (j.value c.name c.predicate c.value) :=
    reports_comparison c
  rw [Span.demands, Span.comparisons]
  simp only [← Quantity.written_eq_decimal]
  exact (hfield _).append <| (hfield _).append <| (hfield _).append <| (hfield _).append <|
    (hfield _).append <| (hfield _).append <| reports_tags.append reports_references

/-! ## What success means -/

/-- With equally many tags it is enough that every expected one is there. -/
theorem tagsHold_iff {expected actual : Dictionary String} :
    j.TagsHold expected actual ↔
      (∀ key, expected.contains key = actual.contains key) ∧
      ∀ key predicate value, expected.get? key = some predicate → actual.get? key = some value →
        j.accepts (j.tagPredicate key predicate) value = true := by
  constructor
  · intro h
    have hkeys : ∀ key, expected.contains key = true → actual.contains key = true := by
      intro key hkey
      obtain ⟨predicate, hpredicate⟩ := Dictionary.exists_get?_of_contains hkey
      obtain ⟨v, hv, -⟩ := h.entries (key, predicate) ((expected.mem_entries_iff _).mpr hpredicate)
      exact Dictionary.contains_of_get? hv
    refine ⟨fun key => Bool.eq_iff_iff.mpr
      ⟨hkeys key, Dictionary.contains_of_size_le hkeys h.size.ge⟩, ?_⟩
    intro key predicate value hpredicate hvalue
    obtain ⟨v, hv, haccepts⟩ :=
      h.entries (key, predicate) ((expected.mem_entries_iff _).mpr hpredicate)
    obtain rfl : v = value := Option.some.inj (hv.symm.trans hvalue)
    exact haccepts
  · rintro ⟨hkeys, hvalues⟩
    refine ⟨Nat.le_antisymm (Dictionary.size_le_of_contains fun key hkey => hkeys key ▸ hkey)
      (Dictionary.size_le_of_contains fun key hkey => (hkeys key).symm ▸ hkey), fun e he => ?_⟩
    have hpredicate := (expected.mem_entries_iff e).mp he
    have hkey : actual.contains e.1 = true := hkeys e.1 ▸ Dictionary.contains_of_get? hpredicate
    obtain ⟨v, hv⟩ := Dictionary.exists_get?_of_contains hkey
    exact ⟨v, hv, hvalues e.1 e.2 v hpredicate hv⟩

theorem referenceHolds_iff {expected actual : Reference} :
    j.ReferenceHolds expected actual ↔
      ∀ c ∈ expected.comparisons actual, j.accepts c.predicate c.value = true := by
  simp only [Reference.comparisons, List.forall_mem_cons, List.not_mem_nil, false_imp_iff,
    implies_true, and_true]
  exact ⟨fun h => ⟨h.refType, h.spanId, h.traceId⟩, fun ⟨ht, hs, hi⟩ => ⟨ht, hs, hi⟩⟩

theorem spanHolds_iff {expected actual : Span} :
    j.SpanHolds expected actual ↔
      (∀ c ∈ expected.comparisons actual, j.accepts c.predicate c.value = true) ∧
      j.TagsHold expected.tags actual.tags ∧
      ∀ e ∈ expected.references, ∃ a ∈ actual.references, j.ReferenceHolds e a := by
  simp only [Span.comparisons, ← Quantity.written_eq_decimal, List.forall_mem_cons,
    List.not_mem_nil, false_imp_iff, implies_true, and_true]
  constructor
  · intro h
    exact ⟨⟨h.spanId, h.duration, h.flags, h.operationName, h.startTime, h.parentSpanId⟩,
      h.tags, h.references⟩
  · rintro ⟨⟨hspan, hduration, hflags, hname, hstart, hparent⟩, htags, hreferences⟩
    exact ⟨hspan, hduration, hflags, hname, hstart, hparent, htags, hreferences⟩

/-- **What a comparison of two spans comes to.** It succeeds exactly if all single fields satisfy
their predicates, the tags have the same keys and satisfy theirs, where that of the address of a
request is expanded first, and every expected reference is found in some actual one. Otherwise the
discrepancy is that of the first demand that is not met. A number stands for its decimal form in all
of this, and a text for itself. -/
theorem span_reported (j : Judge) (expected actual : Span) :
    (j.span expected actual = .ok () ↔
      (∀ c ∈ expected.comparisons actual, j.accepts c.predicate c.value = true) ∧
      ((∀ key, expected.tags.contains key = actual.tags.contains key) ∧
        ∀ key predicate value, expected.tags.get? key = some predicate →
          actual.tags.get? key = some value →
          j.accepts (if key = "http.url" then j.env.expandText predicate else predicate) value =
            true) ∧
      ∀ e ∈ expected.references, ∃ a ∈ actual.references,
        ∀ c ∈ e.comparisons a, j.accepts c.predicate c.value = true) ∧
    (∀ d, j.span expected actual = .error d ↔
      FirstFault (j.SpanFault expected actual) (expected.demands actual) d) ∧
    (∀ n : Int, (Quantity.int n).decimal = toString n) ∧
    ∀ s : String, (Quantity.text s).decimal = s := by
  refine ⟨?_, fun d => (reports_span expected actual).eq_error_iff (rightUnique_spanFault _ _),
    fun n => (Quantity.written_eq_decimal (.int n)).symm, fun _ => rfl⟩
  have hadmits : j.span expected actual = .ok () ↔ j.SpanHolds expected actual := admits_iff
  simp only [hadmits, spanHolds_iff, tagsHold_iff, referenceHolds_iff]
  rfl

end Judge

end Assay
