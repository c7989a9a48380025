import Assay.Proofs.Trace.Order

/-!
# What a comparison of traces tells

A comparison binds expected traces by first fit as far as it gets. Where nothing is left that
matches, it names the spans of the expected trace and the last actual trace that is left, together
with what is wrong with that one. No actual trace is named exactly if the expected traces in front
have taken all of them.
-/

namespace Assay

namespace Judge

variable {j : Judge} {actual : List Trace} {taken taken' : List Nat} {e : Trace}

/-- What is told of an expected trace for which nothing is left. -/
inductive Missing (j : Judge) (actual : List Trace) (taken : List Nat) (e : Trace) :
    Discrepancy → Prop where
  /-- All actual traces are taken, so none is named. -/
  | exhausted (h : ∀ s < actual.length, s ∈ taken) :
      Missing j actual taken e (.tracesTaken (e.spans.map Span.summary))
  /-- The highest slot that is not taken holds a trace that does not match. -/
  | refused {s : Nat} {t : Trace} {cause : Discrepancy} (ht : actual[s]? = some t)
      (hfree : s ∉ taken) (hlast : ∀ s' < actual.length, s < s' → s' ∈ taken)
      (hcause : j.spans e t = .error cause) :
      Missing j actual taken e (.trace (e.spans.map Span.summary) t.traceId cause)

/-- Only which slots are taken counts, and not in which order. -/
theorem Missing.congr (h : ∀ s, s ∈ taken ↔ s ∈ taken') {d : Discrepancy}
    (hd : j.Missing actual taken e d) : j.Missing actual taken' e d := by
  cases hd with
  | exhausted hall => exact .exhausted fun s hs => (h s).mp (hall s hs)
  | @refused s t cause ht hfree hlast hcause =>
    exact .refused ht (fun hs => hfree ((h s).mpr hs))
      (fun s' hs' hlt => (h s').mp (hlast s' hs' hlt)) hcause

theorem NoneFits.congr (h : ∀ s, s ∈ taken ↔ s ∈ taken') (hnone : j.NoneFits actual taken e) :
    j.NoneFits actual taken' e :=
  fun s t ht hfree => hnone s t ht fun hs => hfree ((h s).mp hs)

/-- There is only one highest slot that is not taken. -/
theorem Missing.unique {d d' : Discrepancy} (h : j.Missing actual taken e d)
    (h' : j.Missing actual taken e d') : d = d' := by
  have hlt {s : Nat} {t : Trace} (ht : actual[s]? = some t) : s < actual.length :=
    (List.getElem?_eq_some_iff.mp ht).1
  cases h with
  | exhausted hall =>
    cases h' with
    | exhausted _ => rfl
    | refused ht hfree => exact absurd (hall _ (hlt ht)) hfree
  | @refused s t cause ht hfree hlast hcause =>
    cases h' with
    | exhausted hall => exact absurd (hall _ (hlt ht)) hfree
    | @refused s' t' cause' ht' hfree' hlast' hcause' =>
      rcases Nat.lt_trichotomy s s' with hs | rfl | hs
      · exact absurd (hlast s' (hlt ht') hs) hfree'
      · rw [ht, Option.some.injEq] at ht'
        subst ht'
        rw [hcause, Except.error.injEq] at hcause'
        rw [hcause']
      · exact absurd (hlast' s (hlt ht) hs) hfree

/-! ## The last attempt -/

/-- A search that finds nothing tells of the last trace that it tried, or of what was tried before
it if all of its traces are taken. -/
theorem firstFit_last {pool : List (Trace × Nat)}
    (h : ∀ p ∈ pool, p.2 ∉ taken → ¬ j.Matches e p.1) (last : Option (String × Discrepancy)) :
    ((∀ p ∈ pool, p.2 ∈ taken) ∧ j.firstFit e taken last pool = .error last) ∨
    ∃ front t slot back cause, pool = front ++ (t, slot) :: back ∧ slot ∉ taken ∧
      (∀ p ∈ back, p.2 ∈ taken) ∧ j.spans e t = .error cause ∧
      j.firstFit e taken last pool = .error (some (t.traceId, cause)) := by
  induction pool generalizing last with
  | nil => exact .inl ⟨by simp, rfl⟩
  | cons p pool ih =>
    obtain ⟨a, k⟩ := p
    rw [List.forall_mem_cons] at h
    by_cases hk : k ∈ taken
    · have hskip : j.firstFit e taken last ((a, k) :: pool) = j.firstFit e taken last pool := by
        simp [firstFit, hk]
      rw [hskip]
      rcases ih h.2 last with ⟨hall, herr⟩ | ⟨front, t, slot, back, cause, rfl, hrest⟩
      · exact .inl ⟨List.forall_mem_cons.mpr ⟨hk, hall⟩, herr⟩
      · exact .inr ⟨(a, k) :: front, t, slot, back, cause, rfl, hrest⟩
    · cases hspans : j.spans e a with
      | ok u => exact absurd hspans (h.1 hk)
      | error cause =>
        have htry : j.firstFit e taken last ((a, k) :: pool) =
            j.firstFit e taken (some (a.traceId, cause)) pool := by
          simp [firstFit, hk, hspans]
        rw [htry]
        rcases ih h.2 (some (a.traceId, cause)) with
          ⟨hall, herr⟩ | ⟨front, t, slot, back, cause', rfl, hrest⟩
        · exact .inr ⟨[], a, k, pool, cause, rfl, hk, hall, hspans, herr⟩
        · exact .inr ⟨(a, k) :: front, t, slot, back, cause', rfl, hrest⟩

/-- **Where nothing is left** the comparison stops, and tells why. -/
theorem NoneFits.bindTraces (h : j.NoneFits actual taken e) (rest : List Trace) :
    ∃ d, j.bindTraces actual taken (e :: rest) = .error d ∧ j.Missing actual taken e d := by
  have hall : ∀ p ∈ actual.zipIdx, p.2 ∉ taken → ¬ j.Matches e p.1 :=
    fun p hp => h p.2 p.1 (List.mk_mem_zipIdx_iff_getElem?.mp hp)
  rcases firstFit_last hall none with
    ⟨htaken, herr⟩ | ⟨front, t, slot, back, cause, hsplit, hfree, hback, hcause, herr⟩
  · refine ⟨_, by simp only [Judge.bindTraces, herr], .exhausted fun s hs => ?_⟩
    exact htaken (actual[s], s) (List.mk_mem_zipIdx_iff_getElem?.mpr (List.getElem?_eq_getElem hs))
  · obtain ⟨ht, -, hlater⟩ := of_zipIdx_eq_append hsplit
    refine ⟨_, by simp only [Judge.bindTraces, herr], .refused ht hfree ?_ hcause⟩
    exact fun s hs hlt => hback _ (hlater s hs hlt)

/-! ## The outcome of a comparison -/

/-- A comparison whose expected traces in front are bound stops where nothing is left. -/
theorem Bound.traces_eq_error {expected front back : List Trace} {slots : List Nat}
    (hsplit : expected = front ++ e :: back) (hbound : j.Bound actual [] front slots)
    (hnone : j.NoneFits actual slots e) :
    ∃ d, j.traces expected actual = .error d ∧ j.Missing actual slots e d := by
  have hmem : ∀ s, s ∈ slots ↔ s ∈ slots.reverse ++ [] := by simp
  obtain ⟨d, hd, hmissing⟩ := (hnone.congr hmem).bindTraces back
  refine ⟨d, ?_, hmissing.congr fun s => (hmem s).symm⟩
  rw [traces, if_neg (by simp [hsplit]), hsplit, hbound.bindTraces_append]
  exact hd

/-- **Traces are bound by first fit, and the outcome says so.** Success means that every expected
trace has found, at its turn, a lowest slot that was left and whose trace matches it, which binds
all of them to different actual traces. A failure is told of the first expected trace that has
found none, with its spans and the actual trace in the highest slot that was left; no actual trace
is named exactly if those in front have taken all slots. -/
theorem traces_first_fit (j : Judge) (expected actual : List Trace) :
    (j.traces expected actual = .ok () ↔
      expected ≠ [] ∧ ∃ slots, j.Bound actual [] expected slots) ∧
    (j.traces expected actual = .ok () → Bindable j.Matches expected actual) ∧
    (∀ d, j.traces expected actual = .error d ↔
      (expected = [] ∧ d = .nothingExpected "traces") ∨
      ∃ front e back slots, expected = front ++ e :: back ∧ j.Bound actual [] front slots ∧
        j.NoneFits actual slots e ∧ j.Missing actual slots e d) ∧
    (∀ front e back slots, expected = front ++ e :: back → j.Bound actual [] front slots →
      j.NoneFits actual slots e →
      ((∃ summaries, j.traces expected actual = .error (.tracesTaken summaries)) ↔
        ∀ s < actual.length, s ∈ slots)) := by
  refine ⟨?_, bindable_of_traces, fun d => ⟨fun h => ?_, ?_⟩, ?_⟩
  · rw [traces_eq_ok_iff, bindTraces_eq_ok_iff]
  · by_cases hne : expected = []
    · subst hne
      cases h
      exact .inl ⟨rfl, rfl⟩
    · rcases bindTraces_cases j actual [] expected with
        ⟨hok, -⟩ | ⟨-, front, e, back, slots, hsplit, hbound, hnone⟩
      · rw [traces_eq_ok_iff.mpr ⟨hne, hok⟩] at h
        cases h
      · have hnone' : j.NoneFits actual slots e := hnone.congr (by simp)
        obtain ⟨d', hd', hmissing⟩ := hbound.traces_eq_error hsplit hnone'
        rw [h, Except.error.injEq] at hd'
        exact .inr ⟨front, e, back, slots, hsplit, hbound, hnone', hd' ▸ hmissing⟩
  · rintro (⟨rfl, rfl⟩ | ⟨front, e, back, slots, hsplit, hbound, hnone, hmissing⟩)
    · rfl
    · obtain ⟨d', hd', hmissing'⟩ := hbound.traces_eq_error hsplit hnone
      rw [hd', hmissing.unique hmissing']
  · intro front e back slots hsplit hbound hnone
    obtain ⟨d, hd, hmissing⟩ := hbound.traces_eq_error hsplit hnone
    constructor
    · rintro ⟨summaries, htaken⟩
      rw [hd, Except.error.injEq] at htaken
      subst htaken
      cases hmissing with
      | exhausted hall => exact hall
    · intro hall
      exact ⟨_, hd.trans (congrArg _ (hmissing.unique (.exhausted hall)))⟩

/-- A trace of one operation. -/
def called (traceId operationName : String) : Trace :=
  { traceId, spans := [{ operationName }] }

/-- Two traces of different operations. -/
def calledTwice : List Trace :=
  [called "t1" "get", called "t2" "put"]

/-- Operations in another order are found. One that is expected again is not: the trace that is left
is named, and none is once all are taken. -/
theorem traces_first_fit_again :
    traces { env := fun _ => none } [called "" "put", called "" "get"] calledTwice = .ok () ∧
      Bindable (Matches { env := fun _ => none }) [called "" "put", called "" "get"] calledTwice ∧
    (∃ front e back slots, [called "" "get", called "" "get"] = front ++ e :: back ∧
      Bound { env := fun _ => none } calledTwice [] front slots ∧
      NoneFits { env := fun _ => none } calledTwice slots e ∧
      Missing { env := fun _ => none } calledTwice slots e
        (.trace [⟨"", "", "", "get"⟩] "t2" (.span ⟨"", "", "", "get"⟩ ⟨"", "", "", "put"⟩
          (.field ⟨"operationName", .mismatch .eq "get" "put"⟩)))) ∧
    ∃ front e back slots,
      [called "" "put", called "" "get", called "" "get"] = front ++ e :: back ∧
      Bound { env := fun _ => none } calledTwice [] front slots ∧
      NoneFits { env := fun _ => none } calledTwice slots e ∧
      ∀ s < calledTwice.length, s ∈ slots := by
  have hok : traces { env := fun _ => none } [called "" "put", called "" "get"] calledTwice =
      .ok () := by decide +kernel
  have hleft : traces { env := fun _ => none } [called "" "get", called "" "get"] calledTwice =
      .error (.trace [⟨"", "", "", "get"⟩] "t2" (.span ⟨"", "", "", "get"⟩ ⟨"", "", "", "put"⟩
        (.field ⟨"operationName", .mismatch .eq "get" "put"⟩))) := by decide +kernel
  have hnone : traces { env := fun _ => none }
      [called "" "put", called "" "get", called "" "get"] calledTwice =
      .error (.tracesTaken [⟨"", "", "", "get"⟩]) := by decide +kernel
  obtain ⟨-, hbindable, -⟩ := traces_first_fit { env := fun _ => none } _ calledTwice
  obtain ⟨-, -, hfailure, -⟩ := traces_first_fit { env := fun _ => none }
    [called "" "get", called "" "get"] calledTwice
  obtain ⟨-, -, hfailure', htaken⟩ := traces_first_fit { env := fun _ => none }
    [called "" "put", called "" "get", called "" "get"] calledTwice
  obtain ⟨front, e, back, slots, hsplit, hbound, hgone, -⟩ :=
    ((hfailure' _).mp hnone).resolve_left (by simp)
  exact ⟨hok, hbindable hok, ((hfailure _).mp hleft).resolve_left (by simp), front, e, back, slots,
    hsplit, hbound, hgone, (htaken _ _ _ _ hsplit hbound hgone).mp ⟨_, hnone⟩⟩

end Judge

end Assay
