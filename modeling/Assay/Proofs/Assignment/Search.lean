import Assay.Assignment
import Mathlib.Data.Finset.Card
import Mathlib.Tactic.Tauto

/-!
# Searching a slot

What one search along augmenting paths does to the bindings. A search that ends well hands the
entity one more slot and frees none (`Moved`); one that ends badly changes no owner (`Stalled`),
and the slots that it has visited form a region that no entity in question can leave
(`Exhausted`). The first two hold of a search of any depth, the last one of a search that may go
deeper than there are slots left to visit.
-/

namespace Assay.Assignment

namespace Bindings

variable (b : Bindings) (slot entity s : Nat)

/-! ## Single operations -/

@[simp] theorem owner_visit : (b.visit slot).owner = b.owner := rfl

@[simp] theorem visited_bind : (b.bind slot entity).visited = b.visited := rfl

@[simp] theorem owner_restart : b.restart.owner = b.owner := rfl

@[simp] theorem size_visited_visit : (b.visit slot).visited.size = b.visited.size := by
  simp [visit]

@[simp] theorem size_owner_bind : (b.bind slot entity).owner.size = b.owner.size := by
  simp [bind]

@[simp] theorem size_visited_restart : b.restart.visited.size = b.owner.size := by
  simp [restart]

@[simp] theorem ownerOf?_visit : (b.visit slot).ownerOf? s = b.ownerOf? s := rfl

@[simp] theorem isVisited_bind : (b.bind slot entity).isVisited s = b.isVisited s := rfl

@[simp] theorem ownerOf?_restart : b.restart.ownerOf? s = b.ownerOf? s := rfl

@[simp] theorem isVisited_restart : b.restart.isVisited s = false := by
  by_cases hs : s < b.owner.size <;>
    simp [isVisited, restart, Array.getD_eq_getD_getElem?, hs]

theorem isVisited_visit :
    (b.visit slot).isVisited s =
      (b.isVisited s || (decide (s = slot) && decide (slot < b.visited.size))) := by
  simp only [isVisited, visit, Array.getD_eq_getD_getElem?, Array.getElem?_setIfInBounds]
  by_cases hs : slot = s
  · subst hs
    by_cases hb : slot < b.visited.size <;> simp [hb]
  · simp [hs, Ne.symm hs]

theorem isVisited_visit_self (h : slot < b.visited.size) : (b.visit slot).isVisited slot := by
  simp [isVisited_visit, h]

theorem ownerOf?_bind (h : slot < b.owner.size) :
    (b.bind slot entity).ownerOf? s = if s = slot then some entity else b.ownerOf? s := by
  simp only [ownerOf?, bind, Array.getD_eq_getD_getElem?, Array.getElem?_setIfInBounds]
  by_cases hs : slot = s
  · subst hs
    simp [h]
  · simp [hs, Ne.symm hs]

variable {b s} in
theorem lt_of_ownerOf? {x : Nat} (h : b.ownerOf? s = some x) : s < b.owner.size := by
  by_contra hs
  simp [ownerOf?, Array.getD_eq_getD_getElem?, hs] at h

variable {b s} in
theorem lt_of_isVisited (h : b.isVisited s) : s < b.visited.size := by
  by_contra hs
  simp [isVisited, Array.getD_eq_getD_getElem?, hs] at h

variable {b s} in
theorem getElem?_owner_eq_some {o : Option Nat} :
    b.owner[s]? = some o ↔ s < b.owner.size ∧ b.ownerOf? s = o := by
  by_cases hs : s < b.owner.size <;>
    simp [ownerOf?, Array.getD_eq_getD_getElem?, hs]

variable {b s} in
theorem getElem?_visited_eq_some {v : Bool} :
    b.visited[s]? = some v ↔ s < b.visited.size ∧ b.isVisited s = v := by
  by_cases hs : s < b.visited.size <;>
    simp [isVisited, Array.getD_eq_getD_getElem?, hs]

/-! ## Slots that an entity owns, and slots left to visit -/

/-- The slots that an entity owns. -/
def slotsOf (x : Nat) : Finset Nat :=
  (Finset.range b.owner.size).filter fun s => b.ownerOf? s = some x

/-- The slots that have not been visited. -/
def unvisited : Finset Nat :=
  (Finset.range b.visited.size).filter fun s => b.isVisited s = false

variable {b} in
@[simp] theorem mem_slotsOf {x s : Nat} : s ∈ b.slotsOf x ↔ b.ownerOf? s = some x := by
  simpa [slotsOf] using lt_of_ownerOf?

variable {b} in
@[simp] theorem mem_unvisited {s : Nat} :
    s ∈ b.unvisited ↔ s < b.visited.size ∧ b.isVisited s = false := by
  simp [unvisited]

@[simp] theorem slotsOf_visit (x : Nat) : (b.visit slot).slotsOf x = b.slotsOf x := rfl

@[simp] theorem slotsOf_restart (x : Nat) : b.restart.slotsOf x = b.slotsOf x := rfl

theorem slotsOf_bind_self (h : slot < b.owner.size) :
    (b.bind slot entity).slotsOf entity = insert slot (b.slotsOf entity) := by
  ext s
  by_cases hs : s = slot <;> simp [ownerOf?_bind, h, hs]

theorem slotsOf_bind_of_ne (h : slot < b.owner.size) {x : Nat} (hx : x ≠ entity) :
    (b.bind slot entity).slotsOf x = (b.slotsOf x).erase slot := by
  ext s
  by_cases hs : s = slot <;> simp [ownerOf?_bind, h, hs, Ne.symm hx]

theorem card_unvisited_le : b.unvisited.card ≤ b.visited.size := by
  have hle : b.unvisited.card ≤ (Finset.range b.visited.size).card := Finset.card_filter_le _ _
  rwa [Finset.card_range] at hle

/-- A visit takes a slot away from those left to visit. -/
theorem card_unvisited_visit_lt (h : slot < b.visited.size) (hv : b.isVisited slot = false) :
    (b.visit slot).unvisited.card < b.unvisited.card := by
  refine Finset.card_lt_card (Finset.ssubset_iff_of_subset ?_ |>.mpr ⟨slot, ?_, ?_⟩)
  · intro s hs
    simp only [mem_unvisited, size_visited_visit, isVisited_visit] at hs ⊢
    simp_all
  · simp [h, hv]
  · simp [isVisited_visit, h]

end Bindings

/-! ## How a search ends -/

/-- The bindings after a search that has found a slot for an entity. -/
structure Moved (candidates : List (List Nat)) (entity : Nat) (b b' : Bindings) : Prop where
  ownerSize : b'.owner.size = b.owner.size
  visitedSize : b'.visited.size = b.visited.size
  visited : ∀ s, b.isVisited s → b'.isVisited s
  /-- Slots that had been visited before keep their owners. -/
  kept : ∀ s, b.isVisited s → b'.ownerOf? s = b.ownerOf? s
  /-- Who owns a slot that was someone else's has it among the candidates. -/
  fits : ∀ s x, b'.ownerOf? s = some x → b.ownerOf? s = some x ∨ s ∈ candidates.getD x []
  /-- The entity owns one slot more, every other one as many as before. -/
  held : ∀ x, (b'.slotsOf x).card = (b.slotsOf x).card + if x = entity then 1 else 0
  /-- One slot that was free is taken, and none is given up. -/
  grown : ∃ s < b.owner.size, b.ownerOf? s = none ∧
    ∀ t, (b'.ownerOf? t).isSome ↔ (b.ownerOf? t).isSome ∨ t = s

/-- The bindings after a search that has found nothing. -/
structure Stalled (b b' : Bindings) : Prop where
  owner : b'.owner = b.owner
  visitedSize : b'.visited.size = b.visited.size
  visited : ∀ s, b.isVisited s → b'.isVisited s

/-- What a search may end in. -/
inductive Searched (candidates : List (List Nat)) (entity : Nat) (b : Bindings) :
    Bool × Bindings → Prop where
  | found {b' : Bindings} (h : Moved candidates entity b b') : Searched candidates entity b (true, b')
  | stuck {b' : Bindings} (h : Stalled b b') : Searched candidates entity b (false, b')

/-- The slots that a search without success has visited: all that it tried, and with each of them
all candidates of its owner. -/
structure Exhausted (candidates : List (List Nat)) (tried : List Nat) (b b' : Bindings) :
    Prop where
  tried : ∀ s ∈ tried, b'.isVisited s
  closed : ∀ s, b'.isVisited s → b.isVisited s = false →
    ∃ x, b.ownerOf? s = some x ∧ ∀ t ∈ candidates.getD x [], b'.isVisited t

theorem Stalled.refl (b : Bindings) : Stalled b b :=
  ⟨rfl, rfl, fun _ h => h⟩

theorem Stalled.trans {b₁ b₂ b₃ : Bindings} (h : Stalled b₁ b₂) (h' : Stalled b₂ b₃) :
    Stalled b₁ b₃ :=
  ⟨h'.owner.trans h.owner, h'.visitedSize.trans h.visitedSize,
    fun s hs => h'.visited s (h.visited s hs)⟩

theorem Stalled.ownerOf? {b b' : Bindings} (h : Stalled b b') (s : Nat) :
    b'.ownerOf? s = b.ownerOf? s := by
  simp [Bindings.ownerOf?, h.owner]

theorem Stalled.slotsOf {b b' : Bindings} (h : Stalled b b') (x : Nat) :
    b'.slotsOf x = b.slotsOf x := by
  simp [Bindings.slotsOf, h.owner, h.ownerOf?]

theorem Stalled.visit (b : Bindings) (slot : Nat) : Stalled b (b.visit slot) :=
  ⟨rfl, by simp, fun s hs => by simp [Bindings.isVisited_visit, hs]⟩

theorem Stalled.card_unvisited_le {b b' : Bindings} (h : Stalled b b') :
    b'.unvisited.card ≤ b.unvisited.card := by
  refine Finset.card_le_card fun s hs => ?_
  simp only [Bindings.mem_unvisited, h.visitedSize] at hs ⊢
  refine ⟨hs.1, ?_⟩
  by_contra hv
  simp [h.visited s (by simpa using hv)] at hs

/-- A search without success in front of one with success changes nothing about the result. -/
theorem Stalled.moved {candidates : List (List Nat)} {entity : Nat} {b₁ b₂ b₃ : Bindings}
    (h : Stalled b₁ b₂) (h' : Moved candidates entity b₂ b₃) : Moved candidates entity b₁ b₃ where
  ownerSize := by rw [h'.ownerSize, h.owner]
  visitedSize := by rw [h'.visitedSize, h.visitedSize]
  visited := fun s hs => h'.visited s (h.visited s hs)
  kept := fun s hs => by rw [h'.kept s (h.visited s hs), h.ownerOf?]
  fits := fun s x hx => by simpa [h.ownerOf?] using h'.fits s x hx
  held := fun x => by rw [h'.held, h.slotsOf]
  grown := by simpa [h.owner, h.ownerOf?] using h'.grown

/-! ## Trying the candidates of one entity -/

section TryAll

variable {candidates : List (List Nat)} {move : Nat → Bindings → Bool × Bindings}
  {pool entity slot : Nat} {slots : List Nat} {b : Bindings}

theorem tryAll_visited (hv : b.isVisited slot) :
    tryAll move entity (slot :: slots) b = tryAll move entity slots b := by
  simp [tryAll, hv]

theorem tryAll_free (hv : b.isVisited slot = false) (ho : b.ownerOf? slot = none) :
    tryAll move entity (slot :: slots) b = (true, (b.visit slot).bind slot entity) := by
  simp [tryAll, hv, ho]

theorem tryAll_taken {other : Nat} (hv : b.isVisited slot = false)
    (ho : b.ownerOf? slot = some other) :
    tryAll move entity (slot :: slots) b =
      if (move other (b.visit slot)).1
      then (true, (move other (b.visit slot)).2.bind slot entity)
      else tryAll move entity slots (move other (b.visit slot)).2 := by
  simp [tryAll, hv, ho]

/-- A free slot is handed over. -/
theorem moved_bind_free (hs : slot < b.owner.size) (hv : b.isVisited slot = false)
    (ho : b.ownerOf? slot = none) (hc : slot ∈ candidates.getD entity []) :
    Moved candidates entity b ((b.visit slot).bind slot entity) := by
  have howner := fun s => (b.visit slot).ownerOf?_bind slot entity s hs
  simp only [Bindings.ownerOf?_visit] at howner
  refine ⟨by simp, by simp, fun s h => ?_, fun s h => ?_, fun s x h => ?_, fun x => ?_, ?_⟩
  · simp [Bindings.isVisited_visit, h]
  · have hne : s ≠ slot := by
      rintro rfl
      simp [hv] at h
    rw [howner, if_neg hne]
  · rw [howner] at h
    split at h
    · rename_i hss
      exact .inr (by simpa [hss, ← Option.some.inj h] using hc)
    · exact .inl h
  · by_cases hx : x = entity
    · subst hx
      rw [Bindings.slotsOf_bind_self _ _ _ (by simpa using hs)]
      simp [Finset.card_insert_of_notMem, ho]
    · rw [Bindings.slotsOf_bind_of_ne _ _ _ (by simpa using hs) hx]
      simp [Finset.erase_eq_of_notMem, ho, hx]
  · refine ⟨slot, hs, ho, fun t => ?_⟩
    rw [howner]
    by_cases ht : t = slot <;> simp [ht]

/-- A slot whose owner has found another one is handed over. -/
theorem moved_bind_taken {other : Nat} {b' : Bindings} (hs : slot < b.visited.size)
    (hv : b.isVisited slot = false) (ho : b.ownerOf? slot = some other)
    (hc : slot ∈ candidates.getD entity []) (h : Moved candidates other (b.visit slot) b') :
    Moved candidates entity b (b'.bind slot entity) := by
  have hs' : slot < b'.owner.size := by
    rw [h.ownerSize]
    exact Bindings.lt_of_ownerOf? ho
  have hslot : b'.ownerOf? slot = some other := by
    rw [h.kept slot (b.isVisited_visit_self slot hs), Bindings.ownerOf?_visit, ho]
  have hkept : ∀ s, b.isVisited s → (b.visit slot).isVisited s := (Stalled.visit b slot).visited
  refine ⟨?_, ?_, fun s hb => ?_, fun s hb => ?_, fun s x hx => ?_, fun x => ?_, ?_⟩
  · simpa using h.ownerSize
  · simpa using h.visitedSize
  · simpa using h.visited s (hkept s hb)
  · have hne : s ≠ slot := by
      rintro rfl
      simp [hv] at hb
    simpa [Bindings.ownerOf?_bind, hs', hne] using h.kept s (hkept s hb)
  · by_cases hss : s = slot
    · subst hss
      simp only [Bindings.ownerOf?_bind, hs', if_true, Option.some.injEq] at hx
      exact .inr (hx ▸ hc)
    · exact h.fits s x (by simpa [Bindings.ownerOf?_bind, hs', hss] using hx)
  · -- the slot passes from `other`, who has just gained one, to the entity
    have hheld := h.held x
    simp only [Bindings.slotsOf_visit] at hheld
    by_cases hx : x = entity
    · subst hx
      rw [Bindings.slotsOf_bind_self _ _ _ hs']
      by_cases hxo : x = other
      · subst hxo
        rw [Finset.insert_eq_of_mem (by simpa using hslot), hheld]
      · rw [Finset.card_insert_of_notMem (by simpa [hslot] using Ne.symm hxo), hheld]
        simp [hxo]
    · rw [Bindings.slotsOf_bind_of_ne _ _ _ hs' hx]
      by_cases hxo : x = other
      · subst hxo
        rw [Finset.card_erase_of_mem (by simpa using hslot), hheld]
        simp [hx]
      · rw [Finset.erase_eq_of_notMem (by simpa [hslot] using Ne.symm hxo), hheld]
        simp [hx, hxo]
  · obtain ⟨s, hsb, hsn, hgrown⟩ := h.grown
    refine ⟨s, hsb, hsn, fun t => ?_⟩
    by_cases ht : t = slot
    · subst ht
      simp [Bindings.ownerOf?_bind, hs', ho]
    · simpa [Bindings.ownerOf?_bind, hs', ht] using hgrown t

/-- Trying candidates ends well or changes no owner, if moving another owner does. -/
theorem tryAll_searched (hc : ∀ s ∈ slots, s ∈ candidates.getD entity [] ∧ s < pool)
    (howner : b.owner.size = pool) (hsize : b.visited.size = pool)
    (hmove : ∀ other {b}, b.owner.size = pool → b.visited.size = pool →
      Searched candidates other b (move other b)) :
    Searched candidates entity b (tryAll move entity slots b) := by
  induction slots generalizing b with
  | nil => exact .stuck (.refl b)
  | cons slot slots ih =>
    obtain ⟨hcand, hslot⟩ := hc slot (by simp)
    have hrest : ∀ s ∈ slots, s ∈ candidates.getD entity [] ∧ s < pool :=
      fun s hs => hc s (by simp [hs])
    by_cases hv : b.isVisited slot
    · rw [tryAll_visited hv]
      exact ih hrest howner hsize
    · have hv' : b.isVisited slot = false := by simpa using hv
      cases ho : b.ownerOf? slot with
      | none =>
        rw [tryAll_free hv' ho]
        exact .found (moved_bind_free (howner ▸ hslot) hv' ho hcand)
      | some other =>
        rw [tryAll_taken hv' ho]
        generalize hr : move other (b.visit slot) = r
        have hsearch := hmove other (b := b.visit slot) howner (by simpa using hsize)
        rw [hr] at hsearch
        cases hsearch with
        | found h =>
          exact .found (moved_bind_taken (hsize ▸ hslot) hv' ho hcand h)
        | stuck h =>
          have hb := (Stalled.visit b slot).trans h
          have hnext := ih hrest (by rw [hb.owner, howner]) (by rw [hb.visitedSize, hsize])
          simp only [Bool.false_eq_true, if_false]
          generalize tryAll move entity slots _ = r' at hnext ⊢
          cases hnext with
          | found h' => exact .found (hb.moved h')
          | stuck h' => exact .stuck (hb.trans h')

/-- Trying candidates in vain visits a closed region, if moving another owner in vain does. The
number of slots left to visit stays below the depth that moving is good for. -/
theorem tryAll_exhausted {depth : Nat} {b' : Bindings}
    (hc : ∀ s ∈ slots, s ∈ candidates.getD entity [] ∧ s < pool)
    (howner : b.owner.size = pool) (hsize : b.visited.size = pool)
    (hdepth : b.unvisited.card < depth + 1)
    (hmove : ∀ other {b}, b.owner.size = pool → b.visited.size = pool →
      Searched candidates other b (move other b))
    (hclosed : ∀ other {b b'}, b.owner.size = pool → b.visited.size = pool →
      b.unvisited.card < depth → move other b = (false, b') → Exhausted candidates (candidates.getD other []) b b')
    (h : tryAll move entity slots b = (false, b')) : Exhausted candidates slots b b' := by
  induction slots generalizing b with
  | nil =>
    simp only [tryAll, Prod.mk.injEq, true_and] at h
    subst h
    exact ⟨by simp, fun s hs hn => by simp [hs] at hn⟩
  | cons slot slots ih =>
    obtain ⟨-, hslot⟩ := hc slot (by simp)
    have hrest : ∀ s ∈ slots, s ∈ candidates.getD entity [] ∧ s < pool :=
      fun s hs => hc s (by simp [hs])
    by_cases hv : b.isVisited slot
    · rw [tryAll_visited hv] at h
      have hstall : Searched candidates entity b (false, b') :=
        h ▸ tryAll_searched hrest howner hsize hmove
      cases hstall with
      | stuck hst =>
        obtain ⟨htried, hcl⟩ := ih hrest howner hsize hdepth h
        exact ⟨by simpa using ⟨hst.visited slot hv, htried⟩, hcl⟩
    · have hv' : b.isVisited slot = false := by simpa using hv
      have hsv : slot < b.visited.size := hsize ▸ hslot
      cases ho : b.ownerOf? slot with
      | none => simp [tryAll_free hv' ho] at h
      | some other =>
        rw [tryAll_taken hv' ho] at h
        have hsearch := hmove other (b := b.visit slot) howner (by simpa using hsize)
        generalize hr : move other (b.visit slot) = r at h hsearch
        cases hsearch with
        | found => simp at h
        | @stuck b₁ hst =>
          simp only [Bool.false_eq_true, if_false] at h
          have hb := (Stalled.visit b slot).trans hst
          have hlt := b.card_unvisited_visit_lt slot hsv hv'
          have hother := hclosed other (b := b.visit slot) howner (by simpa using hsize)
            (by omega) hr
          have howner₁ : b₁.owner.size = pool := by rw [hb.owner, howner]
          have hsize₁ : b₁.visited.size = pool := by rw [hb.visitedSize, hsize]
          have hex := ih hrest howner₁ hsize₁ (by have := hb.card_unvisited_le; omega) h
          have hstall : Searched candidates entity b₁ (false, b') :=
            h ▸ tryAll_searched hrest howner₁ hsize₁ hmove
          cases hstall with
          | stuck hst' =>
            have hslot₁ : b₁.isVisited slot :=
              hst.visited slot (b.isVisited_visit_self slot hsv)
            refine ⟨by simpa using ⟨hst'.visited slot hslot₁, hex.tried⟩, fun s hs hn => ?_⟩
            by_cases hs₁ : b₁.isVisited s
            · by_cases hss : s = slot
              · subst hss
                exact ⟨other, ho, fun t ht => hst'.visited t (hother.tried t ht)⟩
              · -- visited while `other` was looking for a slot
                obtain ⟨x, hx, hcl⟩ := hother.closed s hs₁
                  (by simp [Bindings.isVisited_visit, hn, hss])
                exact ⟨x, by simpa using hx, fun t ht => hst'.visited t (hcl t ht)⟩
            · obtain ⟨x, hx, hcl⟩ := hex.closed s hs (by simpa using hs₁)
              exact ⟨x, by rwa [← hb.ownerOf? s], hcl⟩

end TryAll

/-! ## The search of an entity -/

/-- Every candidate of every entity is a slot. -/
def InPool (candidates : List (List Nat)) (pool : Nat) : Prop :=
  ∀ slots ∈ candidates, ∀ s ∈ slots, s < pool

theorem InPool.lt {candidates : List (List Nat)} {pool : Nat} (h : InPool candidates pool)
    {entity s : Nat} (hs : s ∈ candidates.getD entity []) : s < pool := by
  rw [List.getD_eq_getElem?_getD] at hs
  cases he : candidates[entity]? with
  | none => simp [he] at hs
  | some slots => exact h slots (List.mem_of_getElem? he) s (by simpa [he] using hs)

/-- A search of any depth ends well or changes no owner. -/
theorem augment_searched {candidates : List (List Nat)} {pool : Nat}
    (hpool : InPool candidates pool) (depth entity : Nat) {b : Bindings}
    (howner : b.owner.size = pool) (hsize : b.visited.size = pool) :
    Searched candidates entity b (augment candidates depth entity b) := by
  induction depth generalizing entity b with
  | zero => exact .stuck (.refl b)
  | succ depth ih => exact tryAll_searched (fun s hs => ⟨hs, hpool.lt hs⟩) howner hsize ih

/-- A search that is allowed to go deeper than there are slots left to visit fails only when it
has visited all that it could reach. -/
theorem augment_exhausted {candidates : List (List Nat)} {pool : Nat}
    (hpool : InPool candidates pool) {depth entity : Nat} {b b' : Bindings}
    (howner : b.owner.size = pool) (hsize : b.visited.size = pool)
    (hdepth : b.unvisited.card < depth) (h : augment candidates depth entity b = (false, b')) :
    Exhausted candidates (candidates.getD entity []) b b' := by
  induction depth generalizing entity b b' with
  | zero => omega
  | succ depth ih =>
    refine tryAll_exhausted (fun s hs => ⟨hs, hpool.lt hs⟩) howner hsize hdepth ?_ ?_ h
    · intro other b howner hsize
      exact augment_searched hpool depth other howner hsize
    · intro other b b' howner hsize hd hother
      exact ih howner hsize hd hother

end Assay.Assignment
