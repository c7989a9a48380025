import Assay.Proofs.Assignment.Binding
import Assay.Proofs.Trace.FirstFit

/-!
# The order of traces

Binding by first fit finds no more than there is, but whether it finds a binding that exists may
hang on the order of the lists. It does exactly if there is a binding and an expected trace that can
be starved: the actual traces that it matches can all be bound to other expected traces.
-/

namespace Assay

/-! ## Starving an entity -/

section

variable {α β : Type} {r : α → β → Prop} {xs xs' : List α} {ys ys' : List β}

/-- All that an entity accepts can be bound to other entities, no two to the same. -/
def Starvable (r : α → β → Prop) (xs : List α) (ys : List β) (i : Fin xs.length) : Prop :=
  ∃ g : Fin ys.length → Fin xs.length,
    (∀ k, r (xs.get i) (ys.get k) → g k ≠ i ∧ r (xs.get (g k)) (ys.get k)) ∧
    ∀ k k', r (xs.get i) (ys.get k) → r (xs.get i) (ys.get k') → g k = g k' → k = k'

/-- The order of the lists does not count. -/
theorem Starvable.perm {i : Fin xs.length} (h : Starvable r xs ys i) (hx : xs.Perm xs')
    (hy : ys.Perm ys') : ∃ i', Starvable r xs' ys' i' := by
  obtain ⟨g, hg, hinj⟩ := h
  obtain ⟨σ, hσ⟩ := exists_equiv_of_perm hx
  obtain ⟨τ, hτ⟩ := exists_equiv_of_perm hy
  have hτ' : ∀ k, ys'[k] = ys[τ.symm k] := fun k => by simpa using hτ (τ.symm k)
  have hback : ∀ k, r xs'[σ i] ys'[k] → r xs[i] ys[τ.symm k] := by
    intro k hk
    rwa [hσ, hτ'] at hk
  refine ⟨σ i, fun k => σ (g (τ.symm k)), fun k hk => ?_, fun k k' hk hk' heq => ?_⟩
  · obtain ⟨hne, hr⟩ := hg _ (hback k hk)
    refine ⟨fun he => hne (σ.injective he), ?_⟩
    change r xs'[σ (g (τ.symm k))] ys'[k]
    rwa [hσ, hτ']
  · exact τ.symm.injective (hinj _ _ (hback k hk) (hback k' hk') (σ.injective heq))

/-- A starving order: first the entities that take away all that one accepts, then that one. -/
theorem Starvable.exists_perm {i : Fin xs.length} (h : Starvable r xs ys i) :
    ∃ front x back own rest, xs.Perm (front ++ x :: back) ∧ ys.Perm (own ++ rest) ∧
      List.Forall₂ r front own ∧ ∀ y ∈ rest, ¬ r x y := by
  classical
  obtain ⟨g, hg, hinj⟩ := h
  let accepted := (List.finRange ys.length).filter fun k => r xs[i] ys[k]
  have hmem : ∀ k, k ∈ accepted ↔ r xs[i] ys[k] := fun k => by simp [accepted]
  have hacc : accepted.Nodup := (List.nodup_finRange _).filter _
  have howners : (accepted.map g ++ [i]).Nodup := by
    refine (hacc.map_on fun k hk k' hk' => ?_).append (List.nodup_singleton _) fun x hx hi => ?_
    · exact hinj _ _ ((hmem k).mp hk) ((hmem k').mp hk')
    · obtain ⟨k, hk, rfl⟩ := List.mem_map.mp hx
      exact (hg k ((hmem k).mp hk)).1 (List.mem_singleton.mp hi)
  obtain ⟨back, -, hxs⟩ := exists_perm_map_append howners
  obtain ⟨rest, hrest, hys⟩ := exists_perm_map_append hacc
  refine ⟨(accepted.map g).map (xs[·]), xs[i], back.map (xs[·]), accepted.map (ys[·]),
    rest.map (ys[·]), by simpa using hxs, hys, ?_, fun y hy => ?_⟩
  · rw [List.map_map, List.forall₂_map_left_iff, List.forall₂_map_right_iff, List.forall₂_same]
    exact fun k hk => (hg k ((hmem k).mp hk)).2
  · obtain ⟨k, hk, rfl⟩ := List.mem_map.mp hy
    exact fun hr => (List.disjoint_of_nodup_append hrest) ((hmem k).mpr hr) hk

end

namespace Judge

open List (Forall₂)

variable {j : Judge}

/-! ## Orders that lead to success or failure -/

/-- Slots that are found by first fit make a binding. -/
theorem Bound.bindable {expected actual : List Trace} {slots : List Nat}
    (h : j.Bound actual [] expected slots) : Bindable j.Matches expected actual := by
  have hlen := h.matches.length_eq
  have hget : ∀ i : Fin expected.length, ∃ t, actual[slots[i]]? = some t ∧
      j.Matches expected[i] t :=
    fun i => (List.forall₂_iff_get.mp h.matches).2 i i.isLt (hlen ▸ i.isLt)
  have hlt : ∀ i : Fin expected.length, slots[i] < actual.length := by
    intro i
    obtain ⟨t, ht, -⟩ := hget i
    exact (List.getElem?_eq_some_iff.mp ht).1
  refine ⟨fun i => ⟨slots[i], hlt i⟩, fun i i' heq => ?_, fun i => ?_⟩
  · exact Fin.ext (h.nodup.1.getElem_inj_iff.mp (by simpa using heq))
  · obtain ⟨t, ht, hm⟩ := hget i
    obtain ⟨_, rfl⟩ := List.getElem?_eq_some_iff.mp ht
    exact hm

/-- Expected traces whose matches stand in front, in the same order and with nothing left before
them, are bound to these. -/
theorem exists_bound_of_forall₂ {front own : List Trace} (h : Forall₂ j.Matches front own)
    (before rest : List Trace) {taken : List Nat} (htaken : ∀ s, s ∈ taken ↔ s < before.length) :
    ∃ slots, j.Bound (before ++ (own ++ rest)) taken front slots ∧
      ∀ s, s ∈ slots.reverse ++ taken ↔ s < before.length + own.length := by
  induction h generalizing before taken with
  | nil => exact ⟨[], .nil, by simpa using htaken⟩
  | @cons e t front own hm _ ih =>
    have hfits : j.Fits (before ++ (t :: own ++ rest)) taken e before.length := by
      refine ⟨⟨t, by simp, hm⟩, by simp [htaken], fun s hs t' _ hfree => ?_⟩
      exact absurd ((htaken s).mpr hs) hfree
    have htaken' : ∀ s, s ∈ before.length :: taken ↔ s < (before ++ [t]).length := by
      intro s
      simp only [List.mem_cons, htaken, List.length_append, List.length_singleton]
      omega
    obtain ⟨slots, hbound, hall⟩ := ih (before ++ [t]) htaken'
    refine ⟨before.length :: slots, .cons hfits (by simpa using hbound), fun s => ?_⟩
    rw [List.reverse_cons, List.append_assoc, List.singleton_append, hall, List.length_append,
      List.length_cons, List.length_cons, List.length_nil]
    omega

theorem exists_bound_in_front {front own : List Trace} (h : Forall₂ j.Matches front own)
    (rest : List Trace) : ∃ slots, j.Bound (own ++ rest) [] front slots ∧
      ∀ s, s ∈ slots.reverse ++ [] ↔ s < own.length := by
  have hnil : ∀ s, s ∈ ([] : List Nat) ↔ s < ([] : List Trace).length := by simp
  simpa using exists_bound_of_forall₂ h [] rest hnil

/-- A binding can be found: there is an order of the actual traces that leads to success. -/
theorem exists_perm_bindTraces_ok {expected actual : List Trace}
    (h : Bindable j.Matches expected actual) :
    ∃ actual', actual.Perm actual' ∧ j.bindTraces actual' [] expected = .ok () := by
  obtain ⟨own, rest, hperm, hall⟩ := h.exists_perm
  obtain ⟨slots, hbound, -⟩ := exists_bound_in_front hall rest
  refine ⟨own ++ rest, hperm, ?_⟩
  simpa [bindTraces] using hbound.bindTraces_append []

/-- A trace that can be starved is starved in some order. -/
theorem exists_perm_bindTraces_error {expected actual : List Trace} {i : Fin expected.length}
    (h : Starvable j.Matches expected actual i) :
    ∃ expected' actual', expected.Perm expected' ∧ actual.Perm actual' ∧
      ∃ d, j.bindTraces actual' [] expected' = .error d := by
  obtain ⟨front, e, back, own, rest, hexpected, hactual, hall, hno⟩ := h.exists_perm
  obtain ⟨slots, hbound, htaken⟩ := exists_bound_in_front hall rest
  refine ⟨front ++ e :: back, own ++ rest, hexpected, hactual, ?_⟩
  have hnone : j.NoneFits (own ++ rest) (slots.reverse ++ []) e := by
    intro s t ht hfree
    have hle : own.length ≤ s := by
      rw [htaken] at hfree
      simpa using hfree
    rw [List.getElem?_append_right hle] at ht
    exact hno t (List.mem_of_getElem? ht)
  have happend := hbound.bindTraces_append (e :: back)
  rw [happend]
  obtain ⟨last, hlast⟩ := hnone.firstFit
  cases last with
  | none => exact ⟨_, by simp only [bindTraces, hlast]; rfl⟩
  | some l => exact ⟨_, by simp only [bindTraces, hlast]; rfl⟩

/-- A trace for which nothing is left has been starved by those in front of it. -/
theorem starvable_of_noneFits {front back actual : List Trace} {e : Trace} {slots : List Nat}
    (hbound : j.Bound actual [] front slots) (hnone : j.NoneFits actual (slots.reverse ++ []) e) :
    ∃ i, Starvable j.Matches (front ++ e :: back) actual i := by
  have hlen := hbound.matches.length_eq
  have hlt : front.length < (front ++ e :: back).length := by simp
  have hidx : ∀ k : Fin actual.length, slots.idxOf k.val < (front ++ e :: back).length := by
    intro k
    have := List.idxOf_le_length (a := k.val) (l := slots)
    omega
  have hslot : ∀ k : Fin actual.length, j.Matches e actual[k] → k.val ∈ slots := by
    intro k hm
    by_contra hk
    exact hnone k actual[k] (by simp) (by simpa using hk) hm
  refine ⟨⟨front.length, hlt⟩, fun k => ⟨slots.idxOf k.val, hidx k⟩, fun k hm => ?_,
    fun k k' hm hm' heq => ?_⟩
  · have hmem := hslot k (by simpa using hm)
    have hpos : slots.idxOf k.val < slots.length := List.idxOf_lt_length_of_mem hmem
    refine ⟨fun he => ?_, ?_⟩
    · have := congrArg Fin.val he
      simp only at this
      omega
    · obtain ⟨t, ht, hmatch⟩ := (List.forall₂_iff_get.mp hbound.matches).2 _ (hlen ▸ hpos) hpos
      have hget : slots.get ⟨slots.idxOf k.val, hpos⟩ = k.val := List.getElem_idxOf hpos
      rw [hget, List.getElem?_eq_getElem k.isLt, Option.some.injEq] at ht
      subst ht
      simpa [List.getElem_append_left (hlen ▸ hpos)] using hmatch
  · have hmem := hslot k (by simpa using hm)
    have hmem' := hslot k' (by simpa using hm')
    exact Fin.ext ((List.idxOf_inj hmem).mp (by simpa using heq))

theorem bindable_of_traces {expected actual : List Trace}
    (h : j.traces expected actual = .ok ()) : Bindable j.Matches expected actual := by
  rcases bindTraces_cases j actual [] expected with ⟨-, slots, hbound⟩ | ⟨⟨d, hd⟩, -⟩
  · exact hbound.bindable
  · simp [traces_eq_ok_iff, hd] at h

/-- A failure that is not for want of expectations has starved somebody. -/
theorem exists_starvable_of_traces {expected actual : List Trace} (hne : expected ≠ [])
    (h : j.traces expected actual ≠ .ok ()) : ∃ i, Starvable j.Matches expected actual i := by
  rcases bindTraces_cases j actual [] expected with
    ⟨hok, -⟩ | ⟨-, front, e, back, slots, rfl, hbound, hnone⟩
  · exact absurd (traces_eq_ok_iff.mpr ⟨hne, hok⟩) h
  · exact starvable_of_noneFits hbound hnone

/-- **When the order of traces does not count**: no reordering of either list changes the verdict
exactly if there is no binding at all, or no expected trace can be starved. -/
theorem traces_perm_iff (j : Judge) (expected actual : List Trace) :
    (∀ expected' actual', expected.Perm expected' → actual.Perm actual' →
      (j.traces expected' actual' = .ok () ↔ j.traces expected actual = .ok ())) ↔
    ¬ Bindable j.Matches expected actual ∨ ∀ i, ¬ Starvable j.Matches expected actual i := by
  constructor
  · intro hsame
    by_contra hcon
    rw [not_or, Classical.not_not, Classical.not_forall] at hcon
    obtain ⟨hbind, i, hi⟩ := hcon
    have hi : Starvable j.Matches expected actual i := Classical.not_not.mp hi
    have hne : expected ≠ [] := by
      rintro rfl
      exact i.elim0
    obtain ⟨actual', hperm, hok⟩ := exists_perm_bindTraces_ok hbind
    obtain ⟨expected'', actual'', he, ha, d, hd⟩ := exists_perm_bindTraces_error hi
    have hgood := (hsame expected actual' (.refl _) hperm).mp (traces_eq_ok_iff.mpr ⟨hne, hok⟩)
    have hbad := (hsame expected'' actual'' he ha).mpr hgood
    simp [traces_eq_ok_iff, hd] at hbad
  · rintro (hno | hno) expected' actual' he ha
    · refine iff_of_false (fun h => hno ?_) (fun h => hno (bindable_of_traces h))
      exact (bindable_of_traces h).perm he.symm ha.symm
    · by_cases hne : expected = []
      · subst hne
        obtain rfl := he.nil_eq
        simp [traces]
      · have hne' : expected' ≠ [] := by
          rintro rfl
          exact hne he.eq_nil
        refine iff_of_true ?_ ?_
        · by_contra h
          obtain ⟨i, hi⟩ := exists_starvable_of_traces hne' h
          obtain ⟨i', hi'⟩ := hi.perm he.symm ha.symm
          exact hno i' hi'
        · by_contra h
          obtain ⟨i, hi⟩ := exists_starvable_of_traces hne h
          exact hno i hi

/-- A trace of one span, of which only the operation name is given. -/
def singleSpan (name : String) : Trace :=
  { spans := [{ operationName := name }] }

/-- An expected trace that any span satisfies takes away the only trace that the next one matches.
If the two change places, or the two actual traces do, both are bound. -/
theorem traces_order_matters :
    traces { env := fun _ => none } [singleSpan "", singleSpan "A"]
      [singleSpan "A", singleSpan "B"] ≠ .ok () ∧
    traces { env := fun _ => none } [singleSpan "A", singleSpan ""]
      [singleSpan "A", singleSpan "B"] = .ok () ∧
    traces { env := fun _ => none } [singleSpan "", singleSpan "A"]
      [singleSpan "B", singleSpan "A"] = .ok () := by
  decide +kernel

end Judge

end Assay
