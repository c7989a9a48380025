import Assay.Proofs.Assignment.Search
import Mathlib.Data.Set.Insert
import Mathlib.Tactic.IntervalCases

/-!
# Matchings

A search begins with a matching: the slots that are owned are candidates of their owners, and no
entity owns two. Whatever slots have been visited, it ends, and nothing that it reads or writes is
missing. It is atomic too. Either no owner has changed, or the entity has joined those that own a
slot and one more slot is owned.

That a search ends is said by the rules of its course (`Tries`): where a search went on for ever, or
read outside an array, no rule would lead to an end. It follows from two facts. A call that is
nested in another has a slot less to visit, and a call in vain leaves the matching as it was, so
that every call begins with one.
-/

namespace Assay.Assignment

namespace Bindings

/-- The entities that own a slot. -/
def owners (b : Bindings) : Set Nat :=
  {x | ∃ s, b.ownerOf? s = some x}

/-- The slots that are owned. -/
def taken (b : Bindings) : Set Nat :=
  {s | (b.ownerOf? s).isSome}

theorem mem_owners_iff {b : Bindings} {x : Nat} : x ∈ b.owners ↔ 0 < (b.slotsOf x).card := by
  simp [owners, Finset.card_pos, Finset.Nonempty]

end Bindings

/-! ## The course of a search -/

/-- The course of a call: an entity tries slots in order, and the pair is what it ends with. All
that is read or written is there, a slot is marked before its owner is asked for another one, and
at most `depth` calls are open at a time. -/
inductive Tries (candidates : List (List Nat)) :
    (depth entity : Nat) → List Nat → Bindings → Bool × Bindings → Prop where
  | done {depth entity : Nat} {b : Bindings} :
    Tries candidates (depth + 1) entity [] b (false, b)
  | visited {depth entity slot : Nat} {slots : List Nat} {b : Bindings} {r : Bool × Bindings}
    (hv : b.visited[slot]? = some true)
    (hrest : Tries candidates (depth + 1) entity slots b r) :
    Tries candidates (depth + 1) entity (slot :: slots) b r
  | free {depth entity slot : Nat} {slots : List Nat} {b : Bindings}
    (hv : b.visited[slot]? = some false) (ho : b.owner[slot]? = some none) :
    Tries candidates (depth + 1) entity (slot :: slots) b (true, (b.visit slot).bind slot entity)
  | moved {depth entity slot other : Nat} {slots others : List Nat} {b b' : Bindings}
    (hv : b.visited[slot]? = some false) (ho : b.owner[slot]? = some (some other))
    (hc : candidates[other]? = some others)
    (hcall : Tries candidates depth other others (b.visit slot) (true, b'))
    (hs : slot < b'.owner.size) :
    Tries candidates (depth + 1) entity (slot :: slots) b (true, b'.bind slot entity)
  | refused {depth entity slot other : Nat} {slots others : List Nat} {b b' : Bindings}
    {r : Bool × Bindings}
    (hv : b.visited[slot]? = some false) (ho : b.owner[slot]? = some (some other))
    (hc : candidates[other]? = some others)
    (hcall : Tries candidates depth other others (b.visit slot) (false, b'))
    (hrest : Tries candidates (depth + 1) entity slots b' r) :
    Tries candidates (depth + 1) entity (slot :: slots) b r

section

variable {candidates : List (List Nat)} {pool depth entity : Nat} {slots : List Nat}
  {b b' : Bindings} {r : Bool × Bindings}

theorem Tries.depth_pos (h : Tries candidates depth entity slots b r) : 0 < depth := by
  cases h <;> exact Nat.succ_pos _

theorem augment_eq_tryAll (hc : candidates[entity]? = some slots) (hdepth : 0 < depth) :
    augment candidates depth entity b =
      tryAll (augment candidates (depth - 1)) entity slots b := by
  obtain ⟨depth, rfl⟩ := Nat.exists_eq_succ_of_ne_zero hdepth.ne'
  simp [augment, List.getD_eq_getElem?_getD, hc]

/-- What a course ends with is what trying ends with, if calls may be nested as deep. -/
theorem Tries.tryAll_eq (h : Tries candidates depth entity slots b r) {bound : Nat}
    (hbound : depth ≤ bound) :
    tryAll (augment candidates (bound - 1)) entity slots b = r := by
  induction h generalizing bound with
  | done => rfl
  | visited hv _ ih =>
    rw [tryAll_visited (Bindings.getElem?_visited_eq_some.mp hv).2]
    exact ih hbound
  | free hv ho =>
    exact tryAll_free (Bindings.getElem?_visited_eq_some.mp hv).2
      (Bindings.getElem?_owner_eq_some.mp ho).2
  | moved hv ho hc hcall _ ih =>
    have hpos := hcall.depth_pos
    rw [tryAll_taken (Bindings.getElem?_visited_eq_some.mp hv).2
      (Bindings.getElem?_owner_eq_some.mp ho).2, augment_eq_tryAll hc (by omega), ih (by omega)]
    rfl
  | refused hv ho hc hcall _ ih ihrest =>
    have hpos := hcall.depth_pos
    rw [tryAll_taken (Bindings.getElem?_visited_eq_some.mp hv).2
      (Bindings.getElem?_owner_eq_some.mp ho).2, augment_eq_tryAll hc (by omega), ih (by omega)]
    exact ihrest hbound

/-- What the course of a call ends with is what every search finds that may go as deep. -/
theorem Tries.augment_eq (h : Tries candidates depth entity slots b r)
    (hc : candidates[entity]? = some slots) {bound : Nat} (hbound : depth ≤ bound) :
    augment candidates bound entity b = r :=
  (augment_eq_tryAll hc (h.depth_pos.trans_le hbound)).trans (h.tryAll_eq hbound)

/-! ## Every search ends -/

/-- The arrays cover the pool, whoever owns a slot has it among the candidates, and no entity owns
two. -/
structure Matching (candidates : List (List Nat)) (pool : Nat) (b : Bindings) : Prop where
  ownerSize : b.owner.size = pool
  visitedSize : b.visited.size = pool
  fits : ∀ s x, b.ownerOf? s = some x → s ∈ candidates.getD x []
  single : ∀ x, (b.slotsOf x).card ≤ 1

theorem Stalled.matching (h : Stalled b b') (hb : Matching candidates pool b) :
    Matching candidates pool b' where
  ownerSize := by rw [h.owner, hb.ownerSize]
  visitedSize := by rw [h.visitedSize, hb.visitedSize]
  fits := by simpa only [h.ownerOf?] using hb.fits
  single := by simpa only [h.slotsOf] using hb.single

/-- An owner has candidates. -/
theorem Matching.exists_candidates (hb : Matching candidates pool b) {s x : Nat}
    (ho : b.ownerOf? s = some x) : ∃ slots, candidates[x]? = some slots := by
  have hs := hb.fits s x ho
  cases hc : candidates[x]? with
  | none => simp [List.getD_eq_getElem?_getD, hc] at hs
  | some slots => exact ⟨slots, rfl⟩

/-- Trying slots takes its course if the search for another owner does. A call for another owner
begins with one slot less to visit. -/
theorem tries_tryAll (hpool : InPool candidates pool) (hslots : ∀ s ∈ slots, s < pool)
    (hb : Matching candidates pool b) (hdepth : b.unvisited.card < depth + 1)
    (hcall : ∀ {other others} {b : Bindings}, Matching candidates pool b →
      b.unvisited.card < depth → candidates[other]? = some others →
      Tries candidates depth other others b (augment candidates depth other b)) :
    Tries candidates (depth + 1) entity slots b
      (tryAll (augment candidates depth) entity slots b) := by
  induction slots generalizing b with
  | nil => exact .done
  | cons slot slots ih =>
    obtain ⟨hslot, hrest⟩ := List.forall_mem_cons.mp hslots
    have hsv : slot < b.visited.size := hb.visitedSize ▸ hslot
    have hso : slot < b.owner.size := hb.ownerSize ▸ hslot
    cases hv : b.isVisited slot with
    | true =>
      rw [tryAll_visited hv]
      exact .visited (Bindings.getElem?_visited_eq_some.mpr ⟨hsv, hv⟩) (ih hrest hb hdepth)
    | false =>
      have hv' := Bindings.getElem?_visited_eq_some.mpr ⟨hsv, hv⟩
      cases ho : b.ownerOf? slot with
      | none =>
        rw [tryAll_free hv ho]
        exact .free hv' (Bindings.getElem?_owner_eq_some.mpr ⟨hso, ho⟩)
      | some other =>
        have ho' := Bindings.getElem?_owner_eq_some.mpr ⟨hso, ho⟩
        obtain ⟨others, hc⟩ := hb.exists_candidates ho
        -- neither the mark nor a call in vain changes an owner, so what is tried next is tried from
        -- a matching again
        have hmarked := (Stalled.visit b slot).matching hb
        have hfewer := b.card_unvisited_visit_lt slot hsv hv
        have hcourse := hcall hmarked (by omega) hc
        have hsearch := augment_searched hpool depth other hmarked.ownerSize hmarked.visitedSize
        rw [tryAll_taken hv ho]
        generalize augment candidates depth other (b.visit slot) = r at hcourse hsearch ⊢
        cases hsearch with
        | found h =>
          exact .moved hv' ho' hc hcourse (by rwa [h.ownerSize])
        | stuck h =>
          have hle := h.card_unvisited_le
          exact .refused hv' ho' hc hcourse (ih hrest (h.matching hmarked) (by omega))

/-- **Every search ends**, and nothing is looked up that is not there, if it may go deeper than
there are slots left to visit. -/
theorem tries_augment (hpool : InPool candidates pool) (hb : Matching candidates pool b)
    (hdepth : b.unvisited.card < depth) (hc : candidates[entity]? = some slots) :
    Tries candidates depth entity slots b (augment candidates depth entity b) := by
  induction depth generalizing entity slots b with
  | zero => omega
  | succ depth ih =>
    rw [augment_eq_tryAll hc (Nat.succ_pos _)]
    exact tries_tryAll hpool (hpool slots (List.mem_of_getElem? hc)) hb hdepth ih

/-! ## What a search with success changes -/

theorem Moved.matching (h : Moved candidates entity b b') (hb : Matching candidates pool b)
    (hnew : entity ∉ b.owners) : Matching candidates pool b' where
  ownerSize := by rw [h.ownerSize, hb.ownerSize]
  visitedSize := by rw [h.visitedSize, hb.visitedSize]
  fits := fun s x hx => (h.fits s x hx).elim (hb.fits s x) id
  single := by
    intro x
    have hheld := h.held x
    have hsingle := hb.single x
    by_cases hx : x = entity
    · subst hx
      rw [Bindings.mem_owners_iff] at hnew
      simp only [if_true] at hheld
      omega
    · simp only [hx, if_false] at hheld
      omega

/-- The entity joins those that own a slot. -/
theorem Moved.owners (h : Moved candidates entity b b') :
    b'.owners = insert entity b.owners := by
  ext x
  rw [Set.mem_insert_iff, Bindings.mem_owners_iff, Bindings.mem_owners_iff, h.held]
  by_cases hx : x = entity <;> simp [hx]

/-- One slot joins those that are owned. -/
theorem Moved.taken (h : Moved candidates entity b b') :
    ∃ s, s ∉ b.taken ∧ b'.taken = insert s b.taken := by
  obtain ⟨s, -, hfree, hgrown⟩ := h.grown
  refine ⟨s, by simp [Bindings.taken, hfree], Set.ext fun t => ?_⟩
  exact (hgrown t).trans Or.comm

/-- **A search ends and is atomic**, whatever slots have been visited. It ends with all that it
looks up being there and with no more calls open at a time than there are slots, and one. Without
success no owner has changed; with success the owners are still a matching, the entity is the one
more that owns a slot, and one more slot is owned. -/
theorem augment_atomic (hpool : InPool candidates pool) (hb : Matching candidates pool b)
    (hentity : entity < candidates.length) (hnew : entity ∉ b.owners) :
    ∃ found b', Tries candidates (pool + 1) entity candidates[entity] b (found, b') ∧
      (∀ depth, pool < depth → augment candidates depth entity b = (found, b')) ∧
      (found = false → b'.owner = b.owner) ∧
      (found = true → Matching candidates pool b' ∧ b'.owners = insert entity b.owners ∧
        ∃ s, s ∉ b.taken ∧ b'.taken = insert s b.taken) := by
  have hc : candidates[entity]? = some candidates[entity] := List.getElem?_eq_getElem hentity
  have hleft : b.unvisited.card ≤ pool := hb.visitedSize ▸ b.card_unvisited_le
  have hcourse := tries_augment hpool hb (Nat.lt_succ_of_le hleft) hc
  have hsearch := augment_searched hpool (pool + 1) entity hb.ownerSize hb.visitedSize
  generalize augment candidates (pool + 1) entity b = r at hcourse hsearch
  have hsame : ∀ depth, pool < depth → augment candidates depth entity b = r :=
    fun depth hdepth => hcourse.augment_eq hc hdepth
  cases hsearch with
  | @found b' h =>
    exact ⟨true, b', hcourse, hsame, nofun, fun _ => ⟨h.matching hb hnew, h.owners, h.taken⟩⟩
  | @stuck b' h =>
    exact ⟨false, b', hcourse, hsame, fun _ => h.owner, nofun⟩

end

/-- Two entities own a slot each, and a slot that is free has been visited. -/
def halfTaken : Bindings :=
  ⟨#[some 0, some 1, none, none], #[false, false, false, true]⟩

/-- With its free candidate visited, an entity takes the slot of one that takes the slot of
another. -/
theorem augment_atomic_chain :
    InPool [[0, 1], [1, 0, 2], [3, 0]] 4 ∧ Matching [[0, 1], [1, 0, 2], [3, 0]] 4 halfTaken ∧
      2 ∉ halfTaken.owners ∧
      ∃ b', b'.owner = #[some 2, some 0, some 1, none] ∧
        Tries [[0, 1], [1, 0, 2], [3, 0]] 5 2 [3, 0] halfTaken (true, b') ∧
        Matching [[0, 1], [1, 0, 2], [3, 0]] 4 b' ∧ b'.owners = insert 2 halfTaken.owners ∧
        ∃ s, s ∉ halfTaken.taken ∧ b'.taken = insert s halfTaken.taken := by
  have hpool : InPool [[0, 1], [1, 0, 2], [3, 0]] 4 := by simp [InPool]
  have howned : ∀ s x, halfTaken.ownerOf? s = some x ↔ s = x ∧ x < 2 := by
    rintro (_ | _ | _ | _ | s) x <;> simp [halfTaken, Bindings.ownerOf?] <;> omega
  have hmatching : Matching [[0, 1], [1, 0, 2], [3, 0]] 4 halfTaken := by
    refine ⟨rfl, rfl, fun s x hx => ?_, fun x => ?_⟩
    · obtain ⟨rfl, hlt⟩ := (howned s x).mp hx
      interval_cases s <;> decide
    · refine Finset.card_le_one.mpr fun s hs t ht => ?_
      rw [Bindings.mem_slotsOf, howned] at hs ht
      omega
  have hnew : 2 ∉ halfTaken.owners := by
    rintro ⟨s, hs⟩
    exact absurd ((howned s 2).mp hs).2 (by decide)
  have hfound : augment [[0, 1], [1, 0, 2], [3, 0]] 5 2 halfTaken =
      (true, ⟨#[some 2, some 0, some 1, none], #[true, true, true, true]⟩) := by decide
  obtain ⟨found, b', hcourse, hsame, -, hyes⟩ := augment_atomic hpool hmatching (by decide) hnew
  cases (hsame 5 (by decide)).symm.trans hfound
  exact ⟨hpool, hmatching, hnew, _, rfl, hcourse, hyes rfl⟩

end Assay.Assignment
