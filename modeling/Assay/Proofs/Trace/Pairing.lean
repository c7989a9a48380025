import Assay.Proofs.Assignment.Binding
import Assay.Proofs.Judge
import Assay.Proofs.SideBySide
import Assay.Trace.Match

/-!
# Pairing the spans of two traces

Two traces match exactly if their spans can be paired off, each expected span with an actual one
that it admits. The way there, by operation names first and augmenting paths afterwards, does not
show in the verdict; it only settles how a failure is told. Of several spans that admit nothing any
one may be told of. Nothing here depends on how single predicates are judged.
-/

namespace Assay

namespace Judge

open Assignment
open SideBySide (Pick)

variable (j : Judge)

/-! ## Spans that admit each other -/

/-- An expected span admits an actual one if all of its fields do. -/
def Admits (expected actual : Span) : Prop :=
  j.span expected actual = .ok ()

instance (expected actual : Span) : Decidable (j.Admits expected actual) :=
  inferInstanceAs (Decidable (j.span expected actual = .ok ()))

/-- An expected span is lonely if it admits no span of an actual trace. -/
def Lonely (actual : Trace) (expected : Span) : Prop :=
  ∀ a ∈ actual.spans, ¬ j.Admits expected a

instance (actual : Trace) (expected : Span) : Decidable (j.Lonely actual expected) :=
  inferInstanceAs (Decidable (∀ a ∈ actual.spans, ¬ j.Admits expected a))

variable {j}

/-- What an expected span admits has a name that it accepts, so choosing by names first loses
nothing. -/
theorem Admits.accepts {expected actual : Span} (h : j.Admits expected actual) :
    j.accepts expected.operationName actual.operationName = true := by
  unfold Admits span at h
  obtain ⟨_, -, h⟩ := bind_eq_ok h
  obtain ⟨_, -, h⟩ := bind_eq_ok h
  obtain ⟨_, -, h⟩ := bind_eq_ok h
  obtain ⟨_, hname, -⟩ := bind_eq_ok h
  exact value_eq_ok_iff.mp hname

/-! ## The candidates of one span -/

/-- The slots of a search are those of the spans that are admitted. -/
theorem fst_trySpans (expected : Span) (named : List (Span × Nat)) :
    (j.trySpans expected named).1 =
      (named.filter (j.span expected ·.1 = .ok ())).map Prod.snd := by
  induction named with
  | nil => rfl
  | cons p named ih => cases hs : j.span expected p.1 <;> simp [trySpans, hs, ih]

theorem mem_trySpans {expected : Span} {named : List (Span × Nat)} {slot : Nat} :
    slot ∈ (j.trySpans expected named).1 ↔ ∃ s, (s, slot) ∈ named ∧ j.Admits expected s := by
  simp [fst_trySpans, Admits]

/-- The span that is told of when none is accepted is one of those that were tried. -/
theorem trySpans_last {expected s : Span} {named : List (Span × Nat)} {reason : Discrepancy}
    (h : (j.trySpans expected named).2 = some (s, reason)) : ∃ slot, (s, slot) ∈ named := by
  induction named with
  | nil => simp [trySpans] at h
  | cons p named ih =>
    obtain ⟨a, k⟩ := p
    cases hs : j.span expected a with
    | ok u =>
      simp only [trySpans, hs] at h
      obtain ⟨slot, hslot⟩ := ih h
      exact ⟨slot, by simp [hslot]⟩
    | error e =>
      simp only [trySpans, hs] at h
      cases hl : (j.trySpans expected named).2 with
      | none =>
        rw [hl] at h
        obtain ⟨rfl, -⟩ := Prod.mk.inj (Option.some.inj h)
        exact ⟨k, by simp⟩
      | some l =>
        obtain ⟨slot, hslot⟩ := ih (by simpa [hl] using h)
        exact ⟨slot, by simp [hslot]⟩

/-- Only a search that tried nothing, or accepted something, has nothing to tell. -/
theorem trySpans_silent {expected : Span} {named : List (Span × Nat)}
    (h : (j.trySpans expected named).2 = none) (hn : named ≠ []) :
    (j.trySpans expected named).1 ≠ [] := by
  cases named with
  | nil => exact absurd rfl hn
  | cons p named =>
    obtain ⟨a, k⟩ := p
    cases hs : j.span expected a with
    | ok u => simp [trySpans, hs]
    | error e =>
      simp only [trySpans, hs] at h
      cases hl : (j.trySpans expected named).2 <;> simp [hl] at h

/-- The spans of a pool with an accepted name are all that an expected span can admit. -/
theorem admitted_iff_named {expected : Span} {pool : List Span} {slot : Nat} :
    (∃ s, (s, slot) ∈ (pool.zipIdx.filter fun s =>
        j.accepts expected.operationName s.1.operationName) ∧ j.Admits expected s) ↔
      ∃ s, pool[slot]? = some s ∧ j.Admits expected s := by
  simp only [List.mem_filter, List.mk_mem_zipIdx_iff_getElem?]
  constructor
  · rintro ⟨s, ⟨hs, -⟩, ha⟩
    exact ⟨s, hs, ha⟩
  · rintro ⟨s, hs, ha⟩
    exact ⟨s, ⟨hs, ha.accepts⟩, ha⟩

/-- **The candidates of a span** are the positions of all spans that it admits; it is an error if
there are none. -/
theorem spanCandidates_cases (expected : Span) {pool : List Span} (hpool : pool ≠ []) :
    (∃ slots, j.spanCandidates expected pool = .ok slots ∧ slots ≠ [] ∧
      Offers j.Admits pool expected slots) ∨
    ((∀ a ∈ pool, ¬ j.Admits expected a) ∧ ∃ a ∈ pool, ∃ reason,
      j.spanCandidates expected pool = .error (.span expected.summary a.summary reason)) := by
  unfold spanCandidates
  generalize hnamed : (pool.zipIdx.filter fun s =>
    j.accepts expected.operationName s.1.operationName) = named
  have hadm : ∀ slot, (∃ s, (s, slot) ∈ named ∧ j.Admits expected s) ↔
      ∃ s, pool[slot]? = some s ∧ j.Admits expected s := by
    intro slot
    rw [← hnamed]
    exact admitted_iff_named
  -- what is refused by the spans tried is refused by the whole pool
  have hrefused : (j.trySpans expected named).1 = [] → ∀ a ∈ pool, ¬ j.Admits expected a := by
    intro hnone a ha hadmits
    obtain ⟨slot, hslot, rfl⟩ := List.getElem_of_mem ha
    have hmem := mem_trySpans.mpr ((hadm slot).mpr ⟨_, List.getElem?_eq_getElem hslot, hadmits⟩)
    simp [hnone] at hmem
  cases hn : named with
  | nil =>
    refine .inr ⟨hrefused (by simp [hn, trySpans]), ?_⟩
    obtain ⟨first, rest, rfl⟩ := List.exists_cons_of_ne_nil hpool
    refine ⟨first, by simp, ?_⟩
    simp only [List.isEmpty_nil, if_true, List.head?_cons, Option.getD_some]
    cases j.value "operationName" expected.operationName first.operationName with
    | error reason => exact ⟨reason, rfl⟩
    | ok u => exact ⟨_, rfl⟩
  | cons p rest =>
    rw [hn] at hadm hrefused
    simp only [List.isEmpty_cons, Bool.false_eq_true, if_false]
    generalize htry : j.trySpans expected (p :: rest) = tried at hrefused
    obtain ⟨slots, last⟩ := tried
    cases slots with
    | cons slot slots =>
      refine .inl ⟨slot :: slots, by simp, by simp, fun s => ?_⟩
      rw [← hadm s, ← mem_trySpans, htry]
    | nil =>
      cases last with
      | none => exact absurd (congrArg Prod.fst htry) (trySpans_silent (by rw [htry]) (by simp))
      | some l =>
        obtain ⟨s, reason⟩ := l
        obtain ⟨slot, hslot⟩ := trySpans_last (j := j) (congrArg Prod.snd htry)
        have hmem : s ∈ pool := by
          rw [← hn, ← hnamed, List.mem_filter, List.mk_mem_zipIdx_iff_getElem?] at hslot
          exact List.mem_of_getElem? hslot.1
        exact .inr ⟨hrefused rfl, s, hmem, reason, rfl⟩

/-- Without actual spans there are no candidates. -/
theorem spanCandidates_nil (expected : Span) :
    ∃ d, j.spanCandidates expected [] = .error d := by
  simp only [spanCandidates, List.zipIdx_nil, List.filter_nil, List.isEmpty_nil, if_true]
  cases j.value "operationName" expected.operationName _ with
  | error reason => exact ⟨_, rfl⟩
  | ok u => exact ⟨_, rfl⟩

theorem of_spanCandidates_ok {expected : Span} {pool : List Span} {slots : List Nat}
    (h : j.spanCandidates expected pool = .ok slots) :
    Offers j.Admits pool expected slots ∧ slots ≠ [] := by
  have hpool : pool ≠ [] := by
    rintro rfl
    obtain ⟨d, hd⟩ := spanCandidates_nil (j := j) expected
    simp [h] at hd
  rcases spanCandidates_cases (j := j) expected hpool with
    ⟨slots', hslots, hne, hoffers⟩ | ⟨-, a, -, reason, herr⟩
  · rw [h, Except.ok.injEq] at hslots
    exact hslots ▸ ⟨hoffers, hne⟩
  · simp [h] at herr

theorem of_spanCandidates_error {expected : Span} {pool : List Span} {d : Discrepancy}
    (hpool : pool ≠ []) (h : j.spanCandidates expected pool = .error d) :
    (∀ a ∈ pool, ¬ j.Admits expected a) ∧
      ∃ a ∈ pool, ∃ reason, d = .span expected.summary a.summary reason := by
  rcases spanCandidates_cases (j := j) expected hpool with
    ⟨slots, hslots, -⟩ | ⟨hnone, a, ha, reason, herr⟩
  · simp [h] at hslots
  · rw [h, Except.error.injEq] at herr
    exact ⟨hnone, a, ha, reason, herr⟩

/-! ## The spans of two traces -/

/-- What a comparison of the spans of two traces comes to. -/
inductive SpansOutcome (j : Judge) (expected actual : Trace) : Except Discrepancy Unit → Prop where
  | uneven (hlen : expected.spans.length ≠ actual.spans.length) :
      SpansOutcome j expected actual
        (.error (.size "spans" expected.spans.length actual.spans.length))
  /-- A lonely span is told of, with some actual span. -/
  | lonely {e a : Span} {reason : Discrepancy}
      (hlen : expected.spans.length = actual.spans.length) (he : e ∈ expected.spans)
      (hlonely : j.Lonely actual e) (ha : a ∈ actual.spans) :
      SpansOutcome j expected actual (.error (.span e.summary a.summary reason))
  /-- The first span is told of that cannot be bound together with those before it. -/
  | contested {k : Nat} {e : Span} (hlen : expected.spans.length = actual.spans.length)
      (hmet : ∀ e' ∈ expected.spans, ¬ j.Lonely actual e') (he : expected.spans[k]? = some e)
      (hbefore : ∀ m ≤ k, Bindable j.Admits (expected.spans.take m) actual.spans)
      (hnow : ¬ Bindable j.Admits (expected.spans.take (k + 1)) actual.spans) :
      SpansOutcome j expected actual (.error (.spansTaken e.operationName))
  | paired (hlen : expected.spans.length = actual.spans.length)
      (h : Bindable j.Admits expected.spans actual.spans) : SpansOutcome j expected actual (.ok ())

theorem not_lonely_of_admits {actual : Trace} {e a : Span} (ha : a ∈ actual.spans)
    (h : j.Admits e a) : ¬ j.Lonely actual e :=
  fun hl => hl a ha h

/-- A span with candidates is not lonely. -/
theorem not_lonely_of_offers {actual : Trace} {e : Span} {slots : List Nat}
    (h : Offers j.Admits actual.spans e slots) (hne : slots ≠ []) : ¬ j.Lonely actual e := by
  obtain ⟨slot, hslot⟩ := List.exists_mem_of_ne_nil slots hne
  obtain ⟨a, ha, hadm⟩ := (h slot).mp hslot
  exact not_lonely_of_admits (List.mem_of_getElem? ha) hadm

/-- **Every comparison of spans** comes to one of the outcomes. -/
theorem spans_outcome (j : Judge) (expected actual : Trace) :
    SpansOutcome j expected actual (j.spans expected actual) := by
  unfold spans
  split
  · rename_i hlen
    exact .uneven hlen
  · rename_i hlen
    replace hlen := Classical.not_not.mp hlen
    have hpool : ∀ e ∈ expected.spans, actual.spans ≠ [] := by
      intro e he hnil
      rw [hnil, List.length_nil, List.length_eq_zero_iff] at hlen
      simp [hlen] at he
    rcases j.pick.settle_map_cases (fun s => j.spanCandidates s actual.spans) expected.spans with
      ⟨candidates, hsettle, hall⟩ | ⟨e, hmem, d, he, hsettle⟩
    · have hoffers : List.Forall₂ (Offers j.Admits actual.spans) expected.spans candidates := by
        exact hall.imp fun e slots h => (of_spanCandidates_ok h).1
      have hmet : ∀ e ∈ expected.spans, ¬ j.Lonely actual e := by
        intro e he
        obtain ⟨i, hi, rfl⟩ := List.getElem_of_mem he
        have hslots := (List.forall₂_iff_get.mp hall).2 i hi (hall.length_eq ▸ hi)
        obtain ⟨ho, hne⟩ := of_spanCandidates_ok hslots
        exact not_lonely_of_offers ho hne
      cases hassign : assign candidates actual.spans.length with
      | ok picked =>
        simp only [hsettle, bind, Except.bind, hassign]
        exact .paired hlen (bindable_of_assign hoffers hassign)
      | error k =>
        obtain ⟨hk, hbefore, hnow⟩ := unbound_of_assign hoffers hassign
        obtain ⟨e, he⟩ : ∃ e, expected.spans[k]? = some e := ⟨_, List.getElem?_eq_getElem hk⟩
        simp only [hsettle, bind, Except.bind, hassign, he, Option.map_some, Option.getD_some]
        exact .contested hlen hmet he hbefore hnow
    · obtain ⟨hlonely, a, ha, reason, rfl⟩ := of_spanCandidates_error (hpool e hmem) he
      rw [hsettle]
      exact .lonely hlen hmem hlonely ha

theorem not_bindable_of_lonely {j : Judge} {actual : Trace} {es : List Span} {e : Span}
    (he : e ∈ es) (h : j.Lonely actual e) : ¬ Bindable j.Admits es actual.spans := by
  intro hb
  obtain ⟨a, ha, hadm⟩ := hb.exists_of_mem he
  exact h a ha hadm

theorem spans_eq_ok_iff (j : Judge) (expected actual : Trace) :
    j.spans expected actual = .ok () ↔ expected.spans.length = actual.spans.length ∧
      Bindable j.Admits expected.spans actual.spans := by
  have h := spans_outcome j expected actual
  generalize j.spans expected actual = result at h
  cases h with
  | uneven hlen => simp [hlen]
  | lonely hlen he hlonely ha => simp [not_bindable_of_lonely he hlonely]
  | contested hlen hmet he hbefore hnow =>
    have hno : ¬ Bindable j.Admits expected.spans actual.spans := fun hb => hnow (hb.take _)
    simp [hno]
  | paired hlen hb => simp [hlen, hb]

theorem spans_size_iff (j : Judge) (expected actual : Trace) :
    (∃ what m n, j.spans expected actual = .error (.size what m n)) ↔
      expected.spans.length ≠ actual.spans.length := by
  have h := spans_outcome j expected actual
  generalize j.spans expected actual = result at h
  cases h <;> simp_all

theorem spans_lonely_iff (j : Judge) (expected actual : Trace) :
    (∃ s a reason, j.spans expected actual = .error (.span s a reason)) ↔
      expected.spans.length = actual.spans.length ∧
      ∃ e ∈ expected.spans, j.Lonely actual e := by
  have h := spans_outcome j expected actual
  generalize j.spans expected actual = result at h
  cases h with
  | uneven hlen => simp [hlen]
  | @lonely e a reason hlen he hlonely ha =>
    have hex : ∃ e ∈ expected.spans, j.Lonely actual e := ⟨e, he, hlonely⟩
    simp [hlen, hex]
  | contested hlen hmet => simpa [hlen] using hmet
  | paired hlen hb =>
    simpa [hlen] using fun e he hl => not_bindable_of_lonely he hl hb

theorem spans_contested_iff (j : Judge) (expected actual : Trace) :
    (∃ name, j.spans expected actual = .error (.spansTaken name)) ↔
      expected.spans.length = actual.spans.length ∧
      (∀ e ∈ expected.spans, ¬ j.Lonely actual e) ∧
      ¬ Bindable j.Admits expected.spans actual.spans := by
  have h := spans_outcome j expected actual
  generalize j.spans expected actual = result at h
  cases h with
  | uneven hlen => simp [hlen]
  | @lonely e a reason hlen he hlonely ha =>
    simpa [hlen] using fun hall => absurd hlonely (hall e he)
  | contested hlen hmet he hbefore hnow =>
    have hno : ¬ Bindable j.Admits expected.spans actual.spans := fun hb => hnow (hb.take _)
    simpa [hlen, hno] using hmet
  | paired hlen hb => simp [hb]

/-! ## Choices among lonely spans

The judge's choice is asked for only once the candidates of all spans are known. -/

section Picking

variable {j : Judge} {pick : Pick Discrepancy}

theorem tagEntries_picking (actual : Dictionary String) (es : List (String × String)) :
    (j.picking pick).tagEntries actual es = j.tagEntries actual es := by
  induction es with
  | nil => rfl
  | cons e es ih =>
    rw [tagEntries, tagEntries, ih]
    rfl

theorem tags_picking (expected actual : Dictionary String) :
    (j.picking pick).tags expected actual = j.tags expected actual := by
  rw [tags, tags, tagEntries_picking]

theorem findReference_picking (expected : Reference) (candidates : List Reference) :
    (j.picking pick).findReference expected candidates = j.findReference expected candidates := by
  induction candidates with
  | nil => rfl
  | cons candidate candidates ih =>
    rw [findReference, findReference, ih]
    rfl

theorem references_picking (expected actual : List Reference) :
    (j.picking pick).references expected actual = j.references expected actual := by
  have hentries : (j.picking pick).referenceEntries actual expected =
      j.referenceEntries actual expected := by
    induction expected with
    | nil => rfl
    | cons e expected ih => rw [referenceEntries, referenceEntries, ih, findReference_picking]
  rw [references, references, hentries]

theorem span_picking (expected actual : Span) :
    (j.picking pick).span expected actual = j.span expected actual := by
  simp only [span, tags_picking, references_picking]
  rfl

@[simp] theorem admits_picking : (j.picking pick).Admits = j.Admits := by
  funext expected actual
  rw [Admits, Admits, span_picking]

@[simp] theorem lonely_picking : (j.picking pick).Lonely = j.Lonely := by
  funext actual expected
  rw [Lonely, Lonely, admits_picking]

theorem spanCandidates_picking (expected : Span) (pool : List Span) :
    (j.picking pick).spanCandidates expected pool = j.spanCandidates expected pool := by
  have htry : ∀ named : List (Span × Nat),
      (j.picking pick).trySpans expected named = j.trySpans expected named := by
    intro named
    induction named with
    | nil => rfl
    | cons s named ih => rw [trySpans, trySpans, ih, span_picking]
  rw [spanCandidates, spanCandidates]
  simp only [htry]
  rfl

/-- **Any lonely span may be told of.** -/
theorem exists_pick_of_lonely {expected actual : Trace} {e : Span}
    (hlen : expected.spans.length = actual.spans.length) (he : e ∈ expected.spans)
    (h : j.Lonely actual e) : ∃ pick, ∃ a ∈ actual.spans, ∃ reason,
      (j.picking pick).spans expected actual = .error (.span e.summary a.summary reason) := by
  have hpool : actual.spans ≠ [] := by
    intro hnil
    rw [hnil, List.length_nil, List.length_eq_zero_iff] at hlen
    simp [hlen] at he
  rcases spanCandidates_cases (j := j) e hpool with
    ⟨slots, -, hne, hoffers⟩ | ⟨-, a, ha, reason, herror⟩
  · exact absurd h (not_lonely_of_offers hoffers hne)
  · refine ⟨.prefer (.span e.summary a.summary reason), a, ha, reason, ?_⟩
    have hmem : .error (.span e.summary a.summary reason) ∈
        expected.spans.map (j.spanCandidates · actual.spans) :=
      List.mem_map.mpr ⟨e, he, herror⟩
    simp only [spans, hlen, ne_eq, not_true_eq_false, if_false, spanCandidates_picking,
      pick_picking, Pick.settle_prefer hmem]
    rfl

/-- If the first failure is chosen, the first lonely span is told of. -/
theorem first_of_pick_first {expected actual : Trace} {s a : SpanSummary} {reason : Discrepancy}
    (hpick : j.pick = .first) (h : j.spans expected actual = .error (.span s a reason)) :
    ∃ front e back, expected.spans = front ++ e :: back ∧
      (∀ e' ∈ front, ¬ j.Lonely actual e') ∧ j.Lonely actual e ∧ s = e.summary := by
  have hlonely := (spans_lonely_iff j expected actual).mp ⟨s, a, reason, h⟩
  obtain ⟨hlen, e, he, -⟩ := hlonely
  have hpool : actual.spans ≠ [] := by
    intro hnil
    rw [hnil, List.length_nil, List.length_eq_zero_iff] at hlen
    simp [hlen] at he
  rw [spans, if_neg (by simpa using hlen), hpick] at h
  rcases bind_eq_error h with hsettle | ⟨candidates, -, hassign⟩
  · obtain ⟨front, back, hsplit, hfront⟩ := Pick.settle_first hsettle
    obtain ⟨front, rest, hspans, rfl, hrest⟩ := List.map_eq_append_iff.mp hsplit
    obtain ⟨e, back, rfl, herror, rfl⟩ := List.map_eq_cons_iff.mp hrest
    obtain ⟨hlonely, a', -, reason', heq⟩ := of_spanCandidates_error hpool herror
    refine ⟨front, e, back, hspans, fun e' he' => ?_, hlonely, ?_⟩
    · obtain ⟨slots, hslots⟩ := hfront _ (List.mem_map_of_mem he')
      obtain ⟨hoffers, hne⟩ := of_spanCandidates_ok hslots
      exact not_lonely_of_offers hoffers hne
    · cases heq
      rfl
  · cases hresult : assign candidates actual.spans.length <;> simp [hresult] at hassign

end Picking

/-- **Two traces match exactly if their spans can be paired off.** A difference in number is told
first, then a span that nothing admits, then the first that cannot be bound together with those
before it. Of several spans that nothing admits any one may be told of; it is the first if the first
failure is chosen. Choosing by operation names finds all that a span admits, and neither the order
of the spans nor the choice of a failure counts for the verdict. -/
theorem spans_iff_paired (j : Judge) (expected actual : Trace) :
    (j.spans expected actual = .ok () ↔ expected.spans.length = actual.spans.length ∧
      ∃ f : Fin expected.spans.length ≃ Fin actual.spans.length,
        ∀ i, j.Admits expected.spans[i] actual.spans[f i]) ∧
    ((∃ what m n, j.spans expected actual = .error (.size what m n)) ↔
      expected.spans.length ≠ actual.spans.length) ∧
    ((∃ s a reason, j.spans expected actual = .error (.span s a reason)) ↔
      expected.spans.length = actual.spans.length ∧ ∃ e ∈ expected.spans, j.Lonely actual e) ∧
    ((∃ name, j.spans expected actual = .error (.spansTaken name)) ↔
      expected.spans.length = actual.spans.length ∧
      (∀ e ∈ expected.spans, ¬ j.Lonely actual e) ∧
      ¬ Bindable j.Admits expected.spans actual.spans) ∧
    (∀ d, j.spans expected actual = .error d →
      d = .size "spans" expected.spans.length actual.spans.length ∨
      (∃ e ∈ expected.spans, j.Lonely actual e ∧ ∃ a ∈ actual.spans, ∃ reason,
        d = .span e.summary a.summary reason) ∨
      (∃ k e, expected.spans[k]? = some e ∧
        (∀ m ≤ k, Bindable j.Admits (expected.spans.take m) actual.spans) ∧
        ¬ Bindable j.Admits (expected.spans.take (k + 1)) actual.spans ∧
        d = .spansTaken e.operationName)) ∧
    (expected.spans.length = actual.spans.length →
      ∀ e ∈ expected.spans, j.Lonely actual e → ∃ pick, ∃ a ∈ actual.spans, ∃ reason,
        (j.picking pick).spans expected actual = .error (.span e.summary a.summary reason)) ∧
    (j.pick = .first → ∀ s a reason, j.spans expected actual = .error (.span s a reason) →
      ∃ front e back, expected.spans = front ++ e :: back ∧
        (∀ e' ∈ front, ¬ j.Lonely actual e') ∧ j.Lonely actual e ∧ s = e.summary) ∧
    (∀ e ∈ expected.spans, ∀ slots, j.spanCandidates e actual.spans = .ok slots →
      Offers j.Admits actual.spans e slots) ∧
    (∀ pick, ∀ expected' actual' : Trace, expected.spans.Perm expected'.spans →
      actual.spans.Perm actual'.spans →
      (j.spans expected actual = .ok () ↔ (j.picking pick).spans expected' actual' = .ok ())) := by
  refine ⟨?_, spans_size_iff j expected actual, spans_lonely_iff j expected actual,
    spans_contested_iff j expected actual, fun d hd => ?_,
    fun hlen e he hlonely => exists_pick_of_lonely hlen he hlonely,
    fun hpick s a reason h => first_of_pick_first hpick h,
    fun e _ slots hslots => (of_spanCandidates_ok hslots).1,
    fun pick expected' actual' he ha => ?_⟩
  · rw [spans_eq_ok_iff]
    exact and_congr_right fun hlen => bindable_iff_equiv hlen
  · have h := spans_outcome j expected actual
    rw [hd] at h
    cases h with
    | uneven hlen => exact .inl rfl
    | @lonely e a reason hlen he hlonely ha =>
      exact .inr (.inl ⟨e, he, hlonely, a, ha, reason, rfl⟩)
    | @contested k e hlen hmet he hbefore hnow =>
      exact .inr (.inr ⟨k, e, he, hbefore, hnow, rfl⟩)
  · rw [spans_eq_ok_iff, spans_eq_ok_iff, admits_picking, he.length_eq, ha.length_eq,
      bindable_perm_iff he ha]

/-- Two spans of operations that are not there. -/
def strangers : Trace :=
  { spans := [{ operationName := "A" }, { operationName := "B" }] }

/-- Two spans of other operations. -/
def locals : Trace :=
  { spans := [{ operationName := "C" }, { operationName := "D" }] }

/-- Whichever of two lonely spans there is to tell of, there is a choice that does. -/
theorem spans_iff_paired_strangers :
    strangers.spans.length = locals.spans.length ∧
    (∀ e ∈ strangers.spans, Lonely { env := fun _ => none } locals e ∧
      ∃ pick, ∃ a ∈ locals.spans, ∃ reason,
        (picking { env := fun _ => none } pick).spans strangers locals =
          .error (.span e.summary a.summary reason)) ∧
    ∃ front e back, strangers.spans = front ++ e :: back ∧
      (∀ e' ∈ front, ¬ Lonely { env := fun _ => none } locals e') ∧
      Lonely { env := fun _ => none } locals e ∧ (⟨"", "", "", "A"⟩ : SpanSummary) = e.summary := by
  have hlonely : ∀ e ∈ strangers.spans, Lonely { env := fun _ => none } locals e := by
    decide +kernel
  have hfirst : spans { env := fun _ => none } strangers locals = .error
      (.span ⟨"", "", "", "A"⟩ ⟨"", "", "", "C"⟩
        (.field ⟨"operationName", .mismatch .eq "A" "C"⟩)) := by
    decide +kernel
  obtain ⟨-, -, -, -, -, hany, hpick, -⟩ :=
    spans_iff_paired { env := fun _ => none } strangers locals
  exact ⟨rfl, fun e he => ⟨hlonely e he, hany rfl e he (hlonely e he)⟩, hpick rfl _ _ _ hfirst⟩

/-- **The first lonely span need not be the one that is told of.** -/
theorem spans_tells_later :
    Lonely { env := fun _ => none, pick := .last } locals { operationName := "A" } ∧
    strangers.spans.head? = some { operationName := "A" } ∧
    spans { env := fun _ => none, pick := .last } strangers locals = .error
      (.span ⟨"", "", "", "B"⟩ ⟨"", "", "", "C"⟩
        (.field ⟨"operationName", .mismatch .eq "B" "C"⟩)) := by
  refine ⟨?_, rfl, ?_⟩
  · decide +kernel
  · decide +kernel

end Judge

end Assay
