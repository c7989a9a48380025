import Assay.Proofs.Trace.Order
import Mathlib.Data.List.NodupEquivFin

/-!
# Traces that are left over

More actual traces, wherever they stand, and fewer expected ones never turn success into failure.
This is not clear from the start, since an early expected trace may take one of the new traces and
leave its old one to somebody else. Two runs are compared: what the first one has left over is left
over in the second one, too.
-/

namespace Assay

namespace Judge

variable {j : Judge} {actual actual' expected expected' : List Trace}

/-- Whatever is free in a first run is free in a second one, in which it stands elsewhere. -/
def Roomier (place : Nat ↪o Nat) (taken taken' : List Nat) : Prop :=
  ∀ s, s ∉ taken → place s ∉ taken'

variable {place : Nat ↪o Nat} {taken taken' : List Nat}

theorem Roomier.nil (place : Nat ↪o Nat) : Roomier place [] [] :=
  fun _ _ => List.not_mem_nil

/-- What only the first run binds leaves the second one more room. -/
theorem Roomier.skip (h : Roomier place taken taken') (slot : Nat) :
    Roomier place (slot :: taken) taken' := by
  intro s hs
  exact h s fun hmem => hs (List.mem_cons_of_mem _ hmem)

/-- **Both runs bind an expected trace.** The second run takes the slot of the first one, or one
before it which the first run does not know or has taken already. -/
theorem Roomier.bind (h : Roomier place taken taken')
    (hplace : ∀ s : Nat, actual[s]? = actual'[place s]?) {e : Trace} {slot : Nat}
    (hfits : j.Fits actual taken e slot) :
    ∃ slot', j.Fits actual' taken' e slot' ∧ Roomier place (slot :: taken) (slot' :: taken') := by
  obtain ⟨t, ht, hm⟩ := hfits.exists_trace
  have ht' : actual'[place slot]? = some t := hplace slot ▸ ht
  have hfree' : place slot ∉ taken' := h slot hfits.free
  rcases fits_or_noneFits j actual' taken' e with ⟨slot', hfits'⟩ | hnone
  · have hle : slot' ≤ place slot := by
      by_contra hlt
      exact hfits'.lowest _ (Nat.lt_of_not_le hlt) t ht' hfree' hm
    refine ⟨slot', hfits', fun s hs hs' => ?_⟩
    rw [List.mem_cons, not_or] at hs
    rcases List.mem_cons.mp hs' with rfl | hs'
    · -- the second run has taken a slot that the first one would have found earlier than its own
      obtain ⟨u, hu, hmu⟩ := hfits'.exists_trace
      have hlt : s < slot := Nat.lt_of_le_of_ne (place.le_iff_le.mp hle) hs.1
      exact hfits.lowest s hlt u ((hplace s).trans hu) hs.2 hmu
    · exact h s hs.2 hs'
  · exact absurd hm (hnone _ t ht' hfree')

/-- A second run with more room binds at least as much. -/
theorem Bound.exists_of_sublist {slots : List Nat} (hbound : j.Bound actual taken expected slots)
    (hplace : ∀ s : Nat, actual[s]? = actual'[place s]?) (h : Roomier place taken taken')
    (he : expected'.Sublist expected) : ∃ slots', j.Bound actual' taken' expected' slots' := by
  induction hbound generalizing expected' taken' with
  | nil =>
    obtain rfl := List.sublist_nil.mp he
    exact ⟨[], .nil⟩
  | @cons taken e rest slot slots hfits _ ih =>
    cases he with
    | cons _ he => exact ih (h.skip slot) he
    | cons_cons _ he =>
      obtain ⟨slot', hfits', h'⟩ := h.bind hplace hfits
      obtain ⟨slots', hbound'⟩ := ih h' he
      exact ⟨slot' :: slots', .cons hfits' hbound'⟩

/-- **Extra data is tolerated.** If lists of traces match, so they do with any traces put in
anywhere on the actual side and any traces left out on the expected side, as long as something is
expected at all. -/
theorem traces_tolerate_surplus (h : j.traces expected actual = .ok ())
    (he : expected'.Sublist expected) (ha : actual.Sublist actual') :
    j.traces expected' actual' = .ok () ↔ expected' ≠ [] := by
  obtain ⟨-, hbind⟩ := traces_eq_ok_iff.mp h
  obtain ⟨slots, hbound⟩ := bindTraces_eq_ok_iff.mp hbind
  obtain ⟨place, hplace⟩ := List.sublist_iff_exists_orderEmbedding_getElem?_eq.mp ha
  have hall : j.bindTraces actual' [] expected' = .ok () :=
    bindTraces_eq_ok_iff.mpr (hbound.exists_of_sublist hplace (.nil place) he)
  rw [traces_eq_ok_iff]
  exact and_iff_left hall

/-- The new trace in front is taken by the loose expectation, which leaves its old one over. -/
theorem traces_tolerate_surplus_in_front :
    traces { env := fun _ => none } [singleSpan "", singleSpan "B", singleSpan "A"]
      [singleSpan "A", singleSpan "B", singleSpan "A"] = .ok () ∧
    (traces { env := fun _ => none } [singleSpan "", singleSpan "B"]
      [singleSpan "C", singleSpan "A", singleSpan "B", singleSpan "C", singleSpan "A"] = .ok () ↔
        [singleSpan "", singleSpan "B"] ≠ []) :=
  have h : traces { env := fun _ => none } [singleSpan "", singleSpan "B", singleSpan "A"]
      [singleSpan "A", singleSpan "B", singleSpan "A"] = .ok () := by decide +kernel
  have he : [singleSpan "", singleSpan "B"].Sublist
      [singleSpan "", singleSpan "B", singleSpan "A"] := .cons_cons _ (.cons_cons _ (.cons _ .slnil))
  have ha : [singleSpan "A", singleSpan "B", singleSpan "A"].Sublist
      [singleSpan "C", singleSpan "A", singleSpan "B", singleSpan "C", singleSpan "A"] :=
    .cons _ (.cons_cons _ (.cons_cons _ (.cons _ (.cons_cons _ .slnil))))
  ⟨h, traces_tolerate_surplus h he ha⟩

end Judge

end Assay
