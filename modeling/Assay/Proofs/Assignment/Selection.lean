import Assay.Proofs.Assignment.Choice

/-!
# Selections

A selection gives every entity one of its candidates, and no slot to two of them. An assignment is a
selection whenever there is one, and otherwise it names the entity at which the candidates run out
for good. Apart from being slots nothing is asked of the candidates: an entity may have none, name a
slot twice, and there may be more entities than slots.
-/

namespace Assay.Assignment

/-- One candidate for every entity, and no slot for two of them. -/
structure Selection (candidates : List (List Nat)) (picked : List Nat) : Prop where
  each : List.Forall₂ (fun slots s => s ∈ slots) candidates picked
  distinct : picked.Nodup

/-- There is a selection. -/
def Selectable (candidates : List (List Nat)) : Prop :=
  ∃ picked, Selection candidates picked

variable {candidates : List (List Nat)} {picked : List Nat} {pool count : Nat}

/-- A selection, position by position. -/
theorem selection_iff : Selection candidates picked ↔ picked.length = candidates.length ∧
    (∀ e s, picked[e]? = some s → s ∈ candidates.getD e []) ∧ picked.Nodup := by
  constructor
  · rintro ⟨heach, hdistinct⟩
    refine ⟨heach.length_eq.symm, fun e s hs => ?_, hdistinct⟩
    obtain ⟨he, rfl⟩ := List.getElem?_eq_some_iff.mp hs
    have hec : e < candidates.length := heach.length_eq ▸ he
    simpa [List.getD_eq_getElem?_getD, hec] using (List.forall₂_iff_get.mp heach).2 e hec he
  · rintro ⟨hlen, hmem, hdistinct⟩
    refine ⟨List.forall₂_iff_get.mpr ⟨hlen.symm, fun e hec he => ?_⟩, hdistinct⟩
    simpa [List.getD_eq_getElem?_getD, hec] using hmem e _ (List.getElem?_eq_getElem he)

/-- A selection lists the slots of a choice. -/
theorem selectable_iff_assignable : Selectable candidates ↔ Assignable candidates candidates.length := by
  constructor
  · rintro ⟨picked, hsel⟩
    obtain ⟨hlen, hmem, hdistinct⟩ := selection_iff.mp hsel
    have hget : ∀ e < candidates.length, picked[e]? = some (picked.getD e 0) := by
      intro e he
      simp [List.getD_eq_getElem?_getD, hlen, he]
    refine ⟨fun e => picked.getD e 0, fun e he => hmem e _ (hget e he), ?_⟩
    intro e he e' he' heq
    refine (List.getElem?_inj (hlen.symm ▸ he) hdistinct).mp ?_
    rw [hget e he, hget e' he']
    exact congrArg some heq
  · rintro ⟨pick, hmem, hinj⟩
    refine ⟨(List.range candidates.length).map pick, selection_iff.mpr ⟨by simp, ?_, ?_⟩⟩
    · intro e s hs
      obtain ⟨he, rfl⟩ : e < candidates.length ∧ pick e = s := by
        simpa [List.getElem?_range, Option.map_eq_some_iff, List.getElem?_eq_some_iff] using hs
      exact hmem e he
    · refine List.Nodup.map_on (fun e he e' he' heq => ?_) List.nodup_range
      exact hinj (by simpa using he) (by simpa using he') heq

/-- Of the first entities only their own candidates count. -/
theorem assignable_take :
    Assignable (candidates.take count) count ↔ Assignable candidates count := by
  have hsame : ∀ e < count, (candidates.take count).getD e [] = candidates.getD e [] := by
    intro e he
    simp [List.getD_eq_getElem?_getD, List.getElem?_take_of_lt he]
  constructor
  · rintro ⟨pick, hmem, hinj⟩
    exact ⟨pick, fun e he => hsame e he ▸ hmem e he, hinj⟩
  · rintro ⟨pick, hmem, hinj⟩
    exact ⟨pick, fun e he => (hsame e he).symm ▸ hmem e he, hinj⟩

theorem selectable_take_iff (hcount : count ≤ candidates.length) :
    Selectable (candidates.take count) ↔ Assignable candidates count := by
  rw [selectable_iff_assignable, List.length_take_of_le hcount, assignable_take]

/-- The first prefix without a selection ends where serving becomes impossible. -/
theorem setOf_not_selectable :
    {i | i < candidates.length ∧ ¬ Selectable (candidates.take (i + 1))} =
      {i | i < candidates.length ∧ ¬ Assignable candidates (i + 1)} :=
  Set.ext fun _ => and_congr_right fun hi => not_congr (selectable_take_iff hi)

/-- **An assignment is a selection if there is one**, whatever candidates the entities have. If
there is none, the entity that is named is the first one up to which there is none. -/
theorem assign_selects (hpool : InPool candidates pool) :
    ((∃ picked, assign candidates pool = .ok picked) ↔ Selectable candidates) ∧
    (∀ picked, assign candidates pool = .ok picked → Selection candidates picked) ∧
    (∀ k, assign candidates pool = .error k ↔
      IsLeast {i | i < candidates.length ∧ ¬ Selectable (candidates.take (i + 1))} k) := by
  rw [setOf_not_selectable]
  refine ⟨?_, fun picked hok => ?_, fun k => ⟨isLeast_of_assign_error hpool, fun hleast => ?_⟩⟩
  · rw [assign_ok_iff hpool, selectable_iff_assignable]
  · rcases assign_spec hpool with ⟨picked', hok', hlen, hmem, hdistinct, -⟩ | ⟨k, herr, -⟩
    · obtain rfl : picked' = picked := Except.ok.inj (hok'.symm.trans hok)
      exact selection_iff.mpr ⟨hlen, hmem, hdistinct⟩
    · cases herr.symm.trans hok
  · -- where a prefix cannot be served no assignment is found, so some entity is named
    cases hassign : assign candidates pool with
    | ok picked =>
      have hall := (assign_ok_iff hpool).mp ⟨picked, hassign⟩
      exact absurd (hall.mono hleast.1.1) hleast.1.2
    | error k' => rw [hleast.unique (isLeast_of_assign_error hpool hassign)]

/-- Three entities share two slots, after the first has made way for the second. -/
theorem assign_selects_crowded :
    InPool [[0, 1], [0], [1, 0, 1], [2]] 3 ∧
      assign [[0, 1], [0], [1, 0, 1], [2]] 3 = .error 2 ∧
      IsLeast {i | i < 4 ∧ ¬ Selectable ([[0, 1], [0], [1, 0, 1], [2]].take (i + 1))} 2 := by
  have hpool : InPool [[0, 1], [0], [1, 0, 1], [2]] 3 := by simp [InPool]
  have herr : assign [[0, 1], [0], [1, 0, 1], [2]] 3 = .error 2 := by decide
  exact ⟨hpool, herr, ((assign_selects hpool).2.2 2).mp herr⟩

end Assay.Assignment
