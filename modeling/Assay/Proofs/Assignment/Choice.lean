import Assay.Proofs.Assignment.Search
import Mathlib.Data.Set.Function
import Mathlib.Order.Bounds.Basic

/-!
# Choosing slots

Serving entities one after the other succeeds exactly if all of them can have slots of their own,
and otherwise it stops at the first entity with which that becomes impossible. The invariant is
`Served`: the entities so far own one slot each, out of their candidates. That a search without
success leaves no choice is a count: the owners of the region that it has visited, and the entity
itself, are one more than the slots that they could be given.
-/

namespace Assay.Assignment

/-- The first `count` entities can be given slots of their own out of their candidates. -/
def Assignable (candidates : List (List Nat)) (count : Nat) : Prop :=
  ∃ pick : Nat → Nat,
    (∀ e < count, pick e ∈ candidates.getD e []) ∧ Set.InjOn pick {e | e < count}

theorem Assignable.mono {candidates : List (List Nat)} {m n : Nat} (h : Assignable candidates n)
    (hmn : m ≤ n) : Assignable candidates m := by
  obtain ⟨pick, hmem, hinj⟩ := h
  exact ⟨pick, fun e he => hmem e (by omega), hinj.mono fun e he => Nat.lt_of_lt_of_le he hmn⟩

/-- The first `count` entities own one slot each, one of their candidates, and the others none. -/
structure Served (candidates : List (List Nat)) (pool count : Nat) (b : Bindings) : Prop where
  ownerSize : b.owner.size = pool
  fits : ∀ s x, b.ownerOf? s = some x → s ∈ candidates.getD x []
  held : ∀ x, (b.slotsOf x).card = if x < count then 1 else 0

section

variable {candidates : List (List Nat)} {pool count : Nat} {b b' : Bindings}

theorem served_initial : Served candidates pool 0 (.initial pool) := by
  have hfree : ∀ s, (Bindings.initial pool).ownerOf? s = none := by
    intro s
    by_cases hs : s < pool <;>
      simp [Bindings.initial, Bindings.ownerOf?, Array.getD_eq_getD_getElem?, hs]
  refine ⟨by simp [Bindings.initial], fun s x hx => ?_, fun x => ?_⟩
  · simp [hfree] at hx
  · simp [Finset.card_eq_zero, Finset.eq_empty_iff_forall_notMem, hfree]

theorem Served.restart (h : Served candidates pool count b) :
    Served candidates pool count b.restart :=
  ⟨h.ownerSize, h.fits, h.held⟩

/-- An owner is one of the entities served so far. -/
theorem Served.lt_of_owner (h : Served candidates pool count b) {s x : Nat}
    (hx : b.ownerOf? s = some x) : x < count := by
  by_contra hn
  have hcard := h.held x
  rw [if_neg hn, Finset.card_eq_zero] at hcard
  have hmem : s ∈ b.slotsOf x := Bindings.mem_slotsOf.mpr hx
  simp [hcard] at hmem

/-- No entity owns two slots. -/
theorem Served.slot_unique (h : Served candidates pool count b) {s t x : Nat}
    (hs : b.ownerOf? s = some x) (ht : b.ownerOf? t = some x) : s = t := by
  have hcard : (b.slotsOf x).card ≤ 1 := by
    rw [h.held]
    split <;> simp
  exact Finset.card_le_one.mp hcard s (by simpa using hs) t (by simpa using ht)

/-- **One entity more**: a search with success serves the next entity. -/
theorem Served.moved (h : Served candidates pool count b)
    (hm : Moved candidates count b b') : Served candidates pool (count + 1) b' := by
  refine ⟨by rw [hm.ownerSize, h.ownerSize], fun s x hx => ?_, fun x => ?_⟩
  · rcases hm.fits s x hx with hb | hc
    · exact h.fits s x hb
    · exact hc
  · rw [hm.held, h.held]
    by_cases hx : x = count
    · simp [hx]
    · by_cases hlt : x < count
      · simp [hx, hlt, Nat.lt_succ_of_lt hlt]
      · simp [hx, hlt, show ¬ x < count + 1 by omega]

/-- **No choice is left**: an entity whose search has visited all that it could reach cannot be
served together with those before it. -/
theorem Served.not_assignable (h : Served candidates pool count b)
    (hfresh : ∀ s, b.isVisited s = false)
    (hex : Exhausted candidates (candidates.getD count []) b b') :
    ¬ Assignable candidates (count + 1) := by
  rintro ⟨pick, hmem, hinj⟩
  let region := (Finset.range b'.visited.size).filter fun s => b'.isVisited s
  have hregion : ∀ s, s ∈ region ↔ b'.isVisited s := by
    intro s
    simpa [region] using Bindings.lt_of_isVisited
  have howned : ∀ s ∈ region, ∃ x, b.ownerOf? s = some x ∧
      ∀ t ∈ candidates.getD x [], b'.isVisited t :=
    fun s hs => hex.closed s ((hregion s).mp hs) (hfresh s)
  -- the entities that can only be given slots of the region
  let owners := region.image fun s => (b.ownerOf? s).getD 0
  have hcard : owners.card = region.card := by
    refine Finset.card_image_of_injOn fun s hs t ht hst => ?_
    obtain ⟨x, hx, -⟩ := howned s hs
    obtain ⟨y, hy, -⟩ := howned t ht
    simp only [hx, hy, Option.getD_some] at hst
    exact h.slot_unique hx (hst ▸ hy)
  have howner : ∀ x ∈ owners, x < count ∧ ∀ t ∈ candidates.getD x [], b'.isVisited t := by
    intro x hx
    obtain ⟨s, hs, rfl⟩ := Finset.mem_image.mp hx
    obtain ⟨y, hy, hcl⟩ := howned s hs
    simpa [hy] using ⟨h.lt_of_owner hy, hcl⟩
  have hnew : count ∉ owners := fun hc => Nat.lt_irrefl _ (howner count hc).1
  have hinto : ∀ x ∈ insert count owners, pick x ∈ region := by
    intro x hx
    rw [hregion]
    rcases Finset.mem_insert.mp hx with rfl | hx
    · exact hex.tried _ (hmem x (by omega))
    · obtain ⟨hlt, hcl⟩ := howner x hx
      exact hcl _ (hmem x (by omega))
  have hle : (insert count owners).card ≤ region.card := by
    refine Finset.card_le_card_of_injOn pick hinto fun x hx y hy hxy => hinj ?_ ?_ hxy
    · rcases Finset.mem_insert.mp hx with rfl | hx
      · exact Nat.lt_succ_self _
      · exact Nat.lt_succ_of_lt (howner x hx).1
    · rcases Finset.mem_insert.mp hy with rfl | hy
      · exact Nat.lt_succ_self _
      · exact Nat.lt_succ_of_lt (howner y hy).1
  rw [Finset.card_insert_of_notMem hnew, hcard] at hle
  omega

end

/-! ## The slots that are picked -/

/-- The slot of an entity that owns one. -/
def Bindings.slotOf (b : Bindings) (entity : Nat) : Nat :=
  (b.owner.findIdx? (· == some entity)).getD 0

section

variable {candidates : List (List Nat)} {pool count : Nat} {b : Bindings}

theorem Served.ownerOf?_slotOf (h : Served candidates pool count b) {e : Nat} (he : e < count) :
    b.ownerOf? (b.slotOf e) = some e := by
  have hcard : 0 < (b.slotsOf e).card := by simp [h.held, he]
  obtain ⟨s, hs⟩ := Finset.card_pos.mp hcard
  have hs := Bindings.mem_slotsOf.mp hs
  cases hf : b.owner.findIdx? (· == some e) with
  | none =>
    rw [Array.findIdx?_eq_none_iff] at hf
    have hlt := Bindings.lt_of_ownerOf? hs
    have hget : b.owner[s] = some e := by
      simpa [Bindings.ownerOf?, Array.getD_eq_getD_getElem?, hlt] using hs
    simpa [hget] using hf b.owner[s] (Array.getElem_mem hlt)
  | some i =>
    obtain ⟨hi, hget, -⟩ := Array.findIdx?_eq_some_iff_getElem.mp hf
    simpa [Bindings.slotOf, hf, Bindings.ownerOf?, Array.getD_eq_getD_getElem?, hi] using hget

theorem Served.slotOf_mem (h : Served candidates pool count b) {e : Nat} (he : e < count) :
    b.slotOf e ∈ candidates.getD e [] :=
  h.fits _ _ (h.ownerOf?_slotOf he)

theorem Served.slotOf_injOn (h : Served candidates pool count b) :
    Set.InjOn b.slotOf {e | e < count} := by
  intro e he e' he' heq
  have howner := h.ownerOf?_slotOf he
  rw [heq, h.ownerOf?_slotOf he'] at howner
  exact (Option.some.inj howner).symm

theorem Served.assignable (h : Served candidates pool count b) : Assignable candidates count :=
  ⟨b.slotOf, fun _ he => h.slotOf_mem he, h.slotOf_injOn⟩

end

/-! ## Serving all entities -/

section

variable {candidates : List (List Nat)} {pool : Nat}

/-- The search for the next entity serves it, or there is no choice for it. -/
theorem serve_step (hpool : InPool candidates pool) {count : Nat} {b : Bindings}
    (h : Served candidates pool count b) :
    (∃ b', augment candidates (pool + 1) count b.restart = (true, b') ∧
      Served candidates pool (count + 1) b') ∨
    (∃ b', augment candidates (pool + 1) count b.restart = (false, b') ∧
      ¬ Assignable candidates (count + 1)) := by
  have howner : b.restart.owner.size = pool := h.ownerSize
  have hsize : b.restart.visited.size = pool := by simp [h.ownerSize]
  have hsearch := augment_searched hpool (pool + 1) count howner hsize
  generalize hr : augment candidates (pool + 1) count b.restart = r at hsearch
  cases hsearch with
  | @found b' hm => exact .inl ⟨b', rfl, h.restart.moved hm⟩
  | @stuck b' hst =>
    have hle : b.restart.unvisited.card ≤ (Finset.range b.restart.visited.size).card :=
      Finset.card_filter_le _ _
    rw [Finset.card_range, hsize] at hle
    have hex := augment_exhausted hpool howner hsize (by omega) hr
    exact .inr ⟨b', rfl, h.restart.not_assignable (fun s => by simp) hex⟩

/-- **Serving**: all that are left are served, or the first with which that becomes impossible is
named. -/
theorem serve_spec (hpool : InPool candidates pool) (left : Nat) {count : Nat} {b : Bindings}
    (h : Served candidates pool count b) :
    (∃ b', serve candidates pool left count b = .ok b' ∧
      Served candidates pool (count + left) b') ∨
    (∃ k, serve candidates pool left count b = .error k ∧ k < count + left ∧
      Assignable candidates k ∧ ¬ Assignable candidates (k + 1)) := by
  induction left generalizing count b with
  | zero => exact .inl ⟨b, rfl, h⟩
  | succ left ih =>
    rcases serve_step hpool h with ⟨b', hb', hs⟩ | ⟨b', hb', hno⟩
    · rcases ih hs with ⟨b'', hok, hs'⟩ | ⟨k, herr, hlt, hk⟩
      · exact .inl ⟨b'', by simp [serve, hb', hok], by rwa [Nat.add_right_comm] at hs'⟩
      · exact .inr ⟨k, by simp [serve, hb', herr], by omega, hk⟩
    · exact .inr ⟨count, by simp [serve, hb'], by omega, h.assignable, hno⟩

/-- Slots are picked for all entities, out of their candidates and all different, or the first
entity is named with which that becomes impossible. -/
theorem assign_spec (hpool : InPool candidates pool) :
    (∃ picked, assign candidates pool = .ok picked ∧ picked.length = candidates.length ∧
      (∀ e s, picked[e]? = some s → s ∈ candidates.getD e []) ∧ picked.Nodup ∧
      Assignable candidates candidates.length) ∨
    (∃ k, assign candidates pool = .error k ∧ k < candidates.length ∧
      Assignable candidates k ∧ ¬ Assignable candidates (k + 1)) := by
  have hinit : Served candidates pool 0 (.initial pool) := served_initial
  rcases serve_spec hpool candidates.length hinit with
    ⟨b, hok, hs⟩ | ⟨k, herr, hlt, hk⟩
  · rw [Nat.zero_add] at hs
    refine .inl ⟨(List.range candidates.length).map b.slotOf, ?_, by simp, ?_, ?_, hs.assignable⟩
    · simp only [assign, hok]
      rfl
    · intro e s he
      obtain ⟨hlt, rfl⟩ : e < candidates.length ∧ b.slotOf e = s := by
        simpa [List.getElem?_range, Option.map_eq_some_iff, List.getElem?_eq_some_iff] using he
      exact hs.slotOf_mem hlt
    · refine List.Nodup.map_on (fun e he e' he' heq => ?_) List.nodup_range
      exact hs.slotOf_injOn (by simpa using he) (by simpa using he') heq
  · refine .inr ⟨k, ?_, by omega, hk⟩
    simp only [assign, herr]
    rfl

/-- There is an assignment exactly if all entities can be served. -/
theorem assign_ok_iff (hpool : InPool candidates pool) :
    (∃ picked, assign candidates pool = .ok picked) ↔
      Assignable candidates candidates.length := by
  rcases assign_spec hpool with ⟨picked, hok, -, -, -, hall⟩ | ⟨k, herr, hlt, -, hno⟩
  · exact ⟨fun _ => hall, fun _ => ⟨picked, hok⟩⟩
  · refine ⟨fun ⟨picked, hok⟩ => ?_, fun h => absurd (h.mono (by omega)) hno⟩
    simp [herr] at hok

/-- The entity that is named is the first with which serving becomes impossible. -/
theorem of_assign_error (hpool : InPool candidates pool) {k : Nat}
    (h : assign candidates pool = .error k) :
    k < candidates.length ∧ Assignable candidates k ∧ ¬ Assignable candidates (k + 1) := by
  rcases assign_spec hpool with ⟨picked, hok, -⟩ | ⟨k', herr, hk⟩
  · simp [hok] at h
  · rw [herr, Except.error.injEq] at h
    exact h ▸ hk

theorem isLeast_of_assign_error (hpool : InPool candidates pool) {k : Nat}
    (h : assign candidates pool = .error k) :
    IsLeast {i | i < candidates.length ∧ ¬ Assignable candidates (i + 1)} k := by
  obtain ⟨hk, hbefore, hno⟩ := of_assign_error hpool h
  refine ⟨⟨hk, hno⟩, ?_⟩
  rintro i ⟨-, hi⟩
  by_contra hlt
  exact hi (hbefore.mono (by omega))

end

end Assay.Assignment
