import Assay.Trace.Match
import Mathlib.Data.List.Forall2
import Mathlib.Data.Nat.Find

/-!
# First fit

Expected traces are bound one after the other, each to the first actual trace that is left and
matches it, and no binding is ever taken back. `Bound` says which slots that leads to, and every
comparison either binds all expected traces or stops at the first for which nothing is left.
-/

namespace Assay

namespace Judge

/-! ## One expected trace -/

/-- An expected trace matches an actual one if their spans do. -/
def Matches (j : Judge) (expected actual : Trace) : Prop :=
  j.spans expected actual = .ok ()

variable {j : Judge}

theorem firstFit_skip {expected : Trace} {taken : List Nat} {front : List (Trace × Nat)}
    (h : ∀ p ∈ front, p.2 ∉ taken → ¬ j.Matches expected p.1) (pool : List (Trace × Nat))
    (last : Option (String × Discrepancy)) :
    ∃ last', j.firstFit expected taken last (front ++ pool) =
      j.firstFit expected taken last' pool := by
  induction front generalizing last with
  | nil => exact ⟨last, rfl⟩
  | cons p front ih =>
    obtain ⟨a, k⟩ := p
    have hrest := ih fun q hq => h q (by simp [hq])
    by_cases hk : k ∈ taken
    · simpa [firstFit, hk] using hrest last
    · have hno : ¬ j.Matches expected a := h (a, k) (by simp) hk
      cases hspans : j.spans expected a with
      | ok u => exact absurd hspans hno
      | error e => simpa [firstFit, hk, hspans] using hrest _

/-- A slot is the first fit if its trace is left and matches, and no earlier one does. -/
structure Fits (j : Judge) (actual : List Trace) (taken : List Nat) (expected : Trace)
    (slot : Nat) : Prop where
  exists_trace : ∃ t, actual[slot]? = some t ∧ j.Matches expected t
  free : slot ∉ taken
  lowest : ∀ s < slot, ∀ t, actual[s]? = some t → s ∉ taken → ¬ j.Matches expected t

/-- Nothing that is left matches an expected trace. -/
def NoneFits (j : Judge) (actual : List Trace) (taken : List Nat) (expected : Trace) : Prop :=
  ∀ s t, actual[s]? = some t → s ∉ taken → ¬ j.Matches expected t

theorem Fits.firstFit {actual : List Trace} {taken : List Nat} {expected : Trace} {slot : Nat}
    (h : j.Fits actual taken expected slot) :
    j.firstFit expected taken none actual.zipIdx = .ok slot := by
  obtain ⟨t, ht, hm⟩ := h.exists_trace
  obtain ⟨hlt, rfl⟩ := List.getElem?_eq_some_iff.mp ht
  have hsplit : actual.zipIdx = (actual.take slot).zipIdx ++
      (actual[slot], slot) :: (actual.drop (slot + 1)).zipIdx (slot + 1) := by
    have hlen : (actual.take slot).length = slot := by simp [Nat.le_of_lt hlt]
    conv_lhs => rw [← List.take_append_drop slot actual, List.drop_eq_getElem_cons hlt]
    rw [List.zipIdx_append, List.zipIdx_cons, hlen, Nat.zero_add]
  have hfront : ∀ p ∈ (actual.take slot).zipIdx, p.2 ∉ taken → ¬ j.Matches expected p.1 := by
    rintro ⟨t, s⟩ hp
    rw [List.mk_mem_zipIdx_iff_getElem?, List.getElem?_take] at hp
    split at hp
    · exact h.lowest s ‹_› t hp
    · simp at hp
  obtain ⟨last, hskip⟩ := firstFit_skip hfront (_ :: _) none
  have hspans : j.spans expected actual[slot] = .ok () := hm
  rw [hsplit, hskip]
  simp [Judge.firstFit, h.free, hspans]

theorem NoneFits.firstFit {actual : List Trace} {taken : List Nat} {expected : Trace}
    (h : j.NoneFits actual taken expected) :
    ∃ last, j.firstFit expected taken none actual.zipIdx = .error last := by
  have hall : ∀ p ∈ actual.zipIdx, p.2 ∉ taken → ¬ j.Matches expected p.1 :=
    fun p hp => h p.2 p.1 (List.mk_mem_zipIdx_iff_getElem?.mp hp)
  obtain ⟨last, hskip⟩ := firstFit_skip hall [] none
  exact ⟨last, by simpa [Judge.firstFit] using hskip⟩

/-- There is a first fit, or nothing fits. -/
theorem fits_or_noneFits (j : Judge) (actual : List Trace) (taken : List Nat) (expected : Trace) :
    (∃ slot, j.Fits actual taken expected slot) ∨ j.NoneFits actual taken expected := by
  classical
  by_cases h : ∃ s, ∃ t, actual[s]? = some t ∧ s ∉ taken ∧ j.Matches expected t
  · obtain ⟨t, ht, hfree, hm⟩ := Nat.find_spec h
    refine .inl ⟨Nat.find h, ⟨t, ht, hm⟩, hfree, fun s hs t' ht' hfree' hm' => ?_⟩
    exact Nat.find_min h hs ⟨t', ht', hfree', hm'⟩
  · exact .inr fun s t ht hfree hm => h ⟨s, t, ht, hfree, hm⟩

/-! ## A list of expected traces -/

/-- The slots of expected traces that are bound one after the other by first fit. -/
inductive Bound (j : Judge) (actual : List Trace) : List Nat → List Trace → List Nat → Prop where
  | nil {taken : List Nat} : Bound j actual taken [] []
  | cons {taken : List Nat} {e : Trace} {rest : List Trace} {slot : Nat} {slots : List Nat}
      (h : j.Fits actual taken e slot) (hrest : Bound j actual (slot :: taken) rest slots) :
      Bound j actual taken (e :: rest) (slot :: slots)

/-- What is bound does not concern what comes later but for the slots that are taken. -/
theorem Bound.bindTraces_append {actual : List Trace} {taken slots : List Nat}
    {front : List Trace} (h : j.Bound actual taken front slots) (rest : List Trace) :
    j.bindTraces actual taken (front ++ rest) =
      j.bindTraces actual (slots.reverse ++ taken) rest := by
  induction h with
  | nil => rfl
  | cons h _ ih => simp [bindTraces, h.firstFit, ih]

/-- The slots are different, and none was taken before. -/
theorem Bound.nodup {actual : List Trace} {taken slots : List Nat} {expected : List Trace}
    (h : j.Bound actual taken expected slots) : slots.Nodup ∧ ∀ s ∈ slots, s ∉ taken := by
  induction h with
  | nil => simp
  | @cons taken e rest slot slots h _ ih =>
    obtain ⟨hnodup, hnew⟩ := ih
    refine ⟨List.nodup_cons.mpr ⟨fun hs => hnew slot hs (by simp), hnodup⟩, fun s hs => ?_⟩
    rcases List.mem_cons.mp hs with rfl | hs
    · exact h.free
    · exact fun htaken => hnew s hs (by simp [htaken])

theorem Bound.matches {actual : List Trace} {taken slots : List Nat} {expected : List Trace}
    (h : j.Bound actual taken expected slots) :
    List.Forall₂ (fun e s => ∃ t, actual[s]? = some t ∧ j.Matches e t) expected slots := by
  induction h with
  | nil => exact .nil
  | cons h _ ih => exact .cons h.exists_trace ih

/-- **Binding one after the other** binds all, or stops at the first for which nothing is left. -/
theorem bindTraces_cases (j : Judge) (actual : List Trace) (taken : List Nat)
    (expected : List Trace) :
    (j.bindTraces actual taken expected = .ok () ∧
      ∃ slots, j.Bound actual taken expected slots) ∨
    ((∃ d, j.bindTraces actual taken expected = .error d) ∧
      ∃ front e back slots, expected = front ++ e :: back ∧ j.Bound actual taken front slots ∧
        j.NoneFits actual (slots.reverse ++ taken) e) := by
  induction expected generalizing taken with
  | nil => exact .inl ⟨rfl, [], .nil⟩
  | cons e rest ih =>
    rcases fits_or_noneFits j actual taken e with ⟨slot, hfits⟩ | hnone
    · simp only [bindTraces, hfits.firstFit]
      rcases ih (slot :: taken) with ⟨hok, slots, hslots⟩ |
        ⟨herr, front, e', back, slots, rfl, hslots, hgone⟩
      · exact .inl ⟨hok, slot :: slots, .cons hfits hslots⟩
      · refine .inr ⟨herr, e :: front, e', back, slot :: slots, rfl, .cons hfits hslots, ?_⟩
        simpa using hgone
    · obtain ⟨last, hlast⟩ := hnone.firstFit
      simp only [bindTraces, hlast]
      refine .inr ⟨?_, [], e, rest, [], rfl, .nil, hnone⟩
      cases last with
      | none => exact ⟨_, rfl⟩
      | some l => exact ⟨_, rfl⟩

theorem bindTraces_eq_ok_iff {actual expected : List Trace} {taken : List Nat} :
    j.bindTraces actual taken expected = .ok () ↔ ∃ slots, j.Bound actual taken expected slots := by
  constructor
  · intro h
    rcases bindTraces_cases j actual taken expected with ⟨-, hslots⟩ | ⟨⟨d, hd⟩, -⟩
    · exact hslots
    · rw [hd] at h
      cases h
  · rintro ⟨slots, hbound⟩
    simpa [bindTraces] using hbound.bindTraces_append []

theorem traces_eq_ok_iff {expected actual : List Trace} :
    j.traces expected actual = .ok () ↔
      expected ≠ [] ∧ j.bindTraces actual [] expected = .ok () := by
  cases expected <;> simp [traces]

/-! ## What a verdict depends on

Replacing traces by others is not seen by first fit as long as it matters to no match. -/

section Replacing

variable {j' : Judge} {f g : Trace → Trace} {actual : List Trace}

theorem fits_map_iff (h : ∀ e t, j'.Matches (f e) (g t) ↔ j.Matches e t) {taken : List Nat}
    {e : Trace} {slot : Nat} :
    j'.Fits (actual.map g) taken (f e) slot ↔ j.Fits actual taken e slot := by
  constructor
  · rintro ⟨hex, hfree, hlow⟩
    refine ⟨by simpa [h] using hex, hfree, fun s hs t ht hs' => ?_⟩
    rw [← h]
    exact hlow s hs (g t) (by simp [ht]) hs'
  · rintro ⟨hex, hfree, hlow⟩
    refine ⟨by simpa [h] using hex, hfree, fun s hs t ht hs' => ?_⟩
    rw [List.getElem?_map, Option.map_eq_some_iff] at ht
    obtain ⟨t, ht, rfl⟩ := ht
    rw [h]
    exact hlow s hs t ht hs'

theorem bound_map_iff (h : ∀ e t, j'.Matches (f e) (g t) ↔ j.Matches e t) {expected : List Trace}
    {taken slots : List Nat} :
    j'.Bound (actual.map g) taken (expected.map f) slots ↔ j.Bound actual taken expected slots := by
  induction expected generalizing taken slots with
  | nil =>
    constructor <;>
    · intro hbound
      cases hbound
      exact .nil
  | cons e expected ih =>
    constructor
    · intro hbound
      cases hbound with
      | cons hfits hrest => exact .cons ((fits_map_iff h).mp hfits) (ih.mp hrest)
    · intro hbound
      cases hbound with
      | cons hfits hrest => exact .cons ((fits_map_iff h).mpr hfits) (ih.mpr hrest)

/-- **The verdict on lists of traces** depends on nothing but which of them match. -/
theorem traces_map_iff (h : ∀ e t, j'.Matches (f e) (g t) ↔ j.Matches e t)
    {expected : List Trace} :
    j'.traces (expected.map f) (actual.map g) = .ok () ↔ j.traces expected actual = .ok () := by
  simp only [traces_eq_ok_iff, bindTraces_eq_ok_iff, bound_map_iff h, ne_eq, List.map_eq_nil_iff]

end Replacing

end Judge

end Assay
