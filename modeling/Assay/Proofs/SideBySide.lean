import Assay.SideBySide
import Mathlib.Data.List.Forall2

/-!
# What steps made side by side come to

Steps succeed together exactly if all of them succeed, whichever failure would be picked. A failure
that is told is one of theirs, each of theirs is told under some choice, and under the choice of the
first one it is the first.
-/

namespace Assay.SideBySide

variable {ε α β : Type} {results : List (Except ε α)} {as : List α} {a : α} {e : ε} {pick : Pick ε}

theorem mem_values : a ∈ values results ↔ .ok a ∈ results := by
  rw [values, List.mem_filterMap]
  constructor
  · rintro ⟨_ | _, h, heq⟩
    · cases heq
    · cases heq
      exact h
  · intro h
    exact ⟨.ok a, h, rfl⟩

theorem mem_failures : e ∈ failures results ↔ .error e ∈ results := by
  rw [failures, List.mem_filterMap]
  constructor
  · rintro ⟨_ | _, h, heq⟩
    · cases heq
      exact h
    · cases heq
  · intro h
    exact ⟨.error e, h, rfl⟩

theorem values_map_ok (as : List α) : values (as.map .ok : List (Except ε α)) = as := by
  simp [values, List.filterMap_map, Function.comp_def, Except.toOption]

theorem failures_eq_nil_iff : failures results = [] ↔ ∃ as : List α, results = as.map .ok := by
  constructor
  · intro h
    induction results with
    | nil => exact ⟨[], rfl⟩
    | cons r results ih =>
      cases r with
      | error e => cases h
      | ok a =>
        obtain ⟨as, rfl⟩ := ih h
        exact ⟨a :: as, rfl⟩
  · rintro ⟨as, rfl⟩
    simp [failures, List.filterMap_map]

/-- Steps can only come to what they all come to, or to a failure of one of them. -/
inductive Settles (results : List (Except ε α)) : Except ε (List α) → Prop where
  | ok {as : List α} (h : results = as.map .ok) : Settles results (.ok as)
  | error {e : ε} (h : .error e ∈ results) : Settles results (.error e)

theorem settles_settle (pick : Pick ε) (results : List (Except ε α)) :
    Settles results (pick.settle results) := by
  rw [Pick.settle]
  cases hfailures : failures results with
  | nil =>
    obtain ⟨as, rfl⟩ := failures_eq_nil_iff.mp hfailures
    rw [values_map_ok]
    exact .ok rfl
  | cons e es =>
    have hmem : (pick e es).1 ∈ failures results := by
      rw [hfailures]
      exact (pick e es).2
    exact .error (mem_failures.mp hmem)

/-- **Steps succeed together** exactly if all of them do. -/
theorem Pick.settle_eq_ok_iff : pick.settle results = .ok as ↔ results = as.map .ok := by
  constructor
  · intro h
    have hsettles := settles_settle pick results
    rw [h] at hsettles
    cases hsettles with
    | ok has => exact has
  · rintro rfl
    rw [Pick.settle, failures_eq_nil_iff.mpr ⟨as, rfl⟩, values_map_ok]

/-- What is told is the failure of a step. -/
theorem Pick.mem_of_settle (h : pick.settle results = .error e) : .error e ∈ results := by
  have hsettles := settles_settle pick results
  rw [h] at hsettles
  cases hsettles with
  | error he => exact he

/-- The choice of the last failure. -/
def Pick.last : Pick ε := fun first others =>
  ⟨(first :: others).getLast (List.cons_ne_nil first others), List.getLast_mem _⟩

/-- The choice of a failure wherever it is among them. -/
def Pick.prefer [DecidableEq ε] (e : ε) : Pick ε := fun first others =>
  if h : e ∈ first :: others then ⟨e, h⟩ else Pick.first first others

/-- **Every failure may be told.** -/
theorem Pick.settle_prefer [DecidableEq ε] (h : .error e ∈ results) :
    (Pick.prefer e).settle results = .error e := by
  rw [← mem_failures] at h
  rw [Pick.settle]
  cases hfailures : failures results with
  | nil =>
    rw [hfailures] at h
    cases h
  | cons first others =>
    rw [hfailures] at h
    simp only [Pick.prefer, dif_pos h]

/-- What steps may come to is what they come to under some choice. -/
theorem settles_iff [DecidableEq ε] {r : Except ε (List α)} :
    Settles results r ↔ ∃ pick : Pick ε, pick.settle results = r := by
  constructor
  · intro h
    cases h with
    | ok has => exact ⟨.first, Pick.settle_eq_ok_iff.mpr has⟩
    | error he => exact ⟨.prefer _, Pick.settle_prefer he⟩
  · rintro ⟨pick, rfl⟩
    exact settles_settle pick results

/-- If the first failure is chosen, all in front of the one that is told have succeeded. -/
theorem Pick.settle_first (h : Pick.first.settle results = .error e) :
    ∃ front back, results = front ++ .error e :: back ∧ ∀ r ∈ front, ∃ a, r = .ok a := by
  rw [Pick.settle] at h
  cases hfailures : failures results with
  | nil =>
    rw [hfailures] at h
    cases h
  | cons e' es =>
    rw [hfailures] at h
    cases h
    obtain ⟨front, r, back, rfl, hfront, hr, -⟩ := List.filterMap_eq_cons_iff.mp hfailures
    refine ⟨front, back, ?_, fun r' hr' => ?_⟩
    · cases r with
      | ok a => cases hr
      | error e' =>
        cases hr
        rfl
    · have hnone := hfront r' hr'
      cases r' with
      | ok a => exact ⟨a, rfl⟩
      | error e' => cases hnone

/-! ## Steps for the elements of a list -/

variable {f : α → Except ε β} {xs : List α} {ys : List β}

theorem map_eq_map_ok_iff :
    xs.map f = ys.map .ok ↔ List.Forall₂ (fun x y => f x = .ok y) xs ys := by
  rw [← List.forall₂_eq_eq_eq, List.forall₂_map_left_iff, List.forall₂_map_right_iff]

/-- The steps for the elements of a list all succeed, or it is told how one of them fails. -/
theorem Pick.settle_map_cases (pick : Pick ε) (f : α → Except ε β) (xs : List α) :
    (∃ ys, pick.settle (xs.map f) = .ok ys ∧ List.Forall₂ (fun x y => f x = .ok y) xs ys) ∨
    ∃ x ∈ xs, ∃ e, f x = .error e ∧ pick.settle (xs.map f) = .error e := by
  cases h : pick.settle (xs.map f) with
  | ok ys => exact .inl ⟨ys, rfl, map_eq_map_ok_iff.mp (settle_eq_ok_iff.mp h)⟩
  | error e =>
    obtain ⟨x, hx, he⟩ := List.mem_map.mp (mem_of_settle h)
    exact .inr ⟨x, hx, e, he, rfl⟩

end Assay.SideBySide
