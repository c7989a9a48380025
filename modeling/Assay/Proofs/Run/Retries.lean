import Assay.Proofs.Fallible
import Assay.Proofs.Run.Cancellation
import Mathlib.Order.Bounds.Basic

/-!
# How often a case is retried

A case that is run by itself is tried until an attempt passes or no attempt is left. The listener is
told of every retry, by its number, and the count of retries never leaves the range in which
attempts are counted. `Retried` says this of a case that is under way; it is shown by induction on
the attempts that are left.
-/

namespace Assay.Run

open List (Forall₂)

/-- The bench on which attempts come to the terms of a sequence, one after the other. -/
def Bench.ofOutcomes (outcome : Nat → Except Failure Unit) : Bench Unit :=
  .ofAttempts fun _ retries => .ofExcept (outcome retries)

/-- The verdict on a case whose last attempt has been made after a number of retries. -/
def Verdict.ofLast (retries : Nat) : Except Failure Unit → Verdict
  | .ok _ => .passed retries
  | .error cause => .exhausted retries cause

/-- An event that announces the retry after the attempt with a number, which has failed. -/
def Announces (outcome : Nat → Except Failure Unit) (c : Case) (i : Nat) (event : Event) : Prop :=
  ∃ cause, outcome i = .error cause ∧ event = .retrying c.displayName (i + 1) cause

namespace Task

section

variable {σ : Type} {bench : Bench σ} {attempts : Nat} {c : Case} {task : Task} {world : σ}

/-- The tasks without a result that a case goes through if nothing is cancelled, each with the world
as it then is. -/
def course (bench : Bench σ) (attempts : Nat) (c : Case) (task : Task) (world : σ) :
    List (Task × σ) :=
  match _h : task.result? with
  | some _ => []
  | none =>
    let next := advance bench attempts c false task world
    (task, world) :: course bench attempts c next.task next.world
  termination_by task.rank attempts
  decreasing_by exact rank_advance_lt bench attempts c false world (one_lt_rank attempts _h)

/-- The attempts that are made in a course, in their order. -/
def made (bench : Bench σ) (attempts : Nat) (c : Case) (task : Task) (world : σ) :
    List (Nat × Attempt) :=
  (course bench attempts c task world).filterMap fun s => s.1.attempt? bench c s.2

theorem course_of_result {result : Result} (h : task.result? = some result) :
    course bench attempts c task world = [] := by
  rw [course]
  split <;> simp_all

theorem course_of_none (h : task.result? = none) :
    course bench attempts c task world =
      (task, world) :: course bench attempts c (advance bench attempts c false task world).task
        (advance bench attempts c false task world).world := by
  rw [course]
  split <;> simp_all

/-- What is heard of a case is what the steps of its course tell. -/
theorem settle_events (bench : Bench σ) (attempts : Nat) (c : Case) (task : Task) (world : σ) :
    (settle bench attempts c task world).events =
      (course bench attempts c task world).flatMap fun s =>
        (advance bench attempts c false s.1 s.2).events := by
  induction task, world using settle.induct bench attempts c with
  | case1 task world result hresult =>
    rw [settle, course_of_result hresult]
    split <;> simp_all
  | case2 task world hnone next ih =>
    have hstep : (settle bench attempts c task world).events =
        (advance bench attempts c false task world).events ++
          (settle bench attempts c next.task next.world).events := by
      rw [settle]
      split <;> simp_all [next]
    rw [hstep, course_of_none hnone, List.flatMap_cons]
    exact congrArg (_ ++ ·) ih

end

/-! ## From one attempt on -/

variable {outcome : Nat → Except Failure Unit} {attempts k n : Nat} {c : Case} {cause : Failure}

/-- The last attempt from one on: those before it fail, and it passes or is the last permitted. -/
structure Last (outcome : Nat → Except Failure Unit) (attempts k n : Nat) : Prop where
  le : k ≤ n
  lt : n < attempts
  failed : ∀ i, k ≤ i → i < n → ∃ cause, outcome i = .error cause
  ended : outcome n = .ok () ∨ n + 1 = attempts

/-- A case that has come to one attempt is tried up to another one: what it settles on, what is heard
on the way, which attempts are made, and how far retries are counted. -/
structure Retried (outcome : Nat → Except Failure Unit) (attempts : Nat) (c : Case) (k n : Nat) :
    Prop where
  last : Last outcome attempts k n
  result : (settle (.ofOutcomes outcome) attempts c (.trying k) ()).result =
    ⟨c.displayName, .ofLast n (outcome n)⟩
  events : Forall₂ (Announces outcome c) (List.range' k (n - k))
    (settle (.ofOutcomes outcome) attempts c (.trying k) ()).events
  made : made (.ofOutcomes outcome) attempts c (.trying k) () =
    (List.range' k (n + 1 - k)).map fun i => (i, .ofExcept (outcome i))
  counted : ∀ s ∈ course (.ofOutcomes outcome) attempts c (.trying k) (), ∀ i,
    s.1.sofar? = some i → i ≤ n

/-- An attempt that fails and is not the last permitted one is announced and followed by the next. -/
theorem Retried.retry (hcause : outcome k = .error cause) (hlt : k + 1 < attempts)
    (h : Retried outcome attempts c (k + 1) n) : Retried outcome attempts c k n := by
  have hle := h.last.le
  have hfail : advance (.ofOutcomes outcome) attempts c false (.trying k) () =
      { task := .pausing (k + 1), events := [.retrying c.displayName (k + 1) cause],
        world := () } := by
    simp [advance, fail, Bench.ofOutcomes, Bench.ofAttempts, Attempt.ofExcept, hcause, hlt]
  have hcourse : course (.ofOutcomes outcome) attempts c (.trying k) () =
      (.trying k, ()) :: (.pausing (k + 1), ()) ::
        course (.ofOutcomes outcome) attempts c (.trying (k + 1)) () := by
    rw [course_of_none rfl, hfail, course_of_none rfl]
    rfl
  refine ⟨⟨by omega, h.last.lt, fun i hki hin => ?_, h.last.ended⟩, ?_, ?_, ?_, ?_⟩
  · rcases Nat.eq_or_lt_of_le hki with rfl | hki
    · exact ⟨cause, hcause⟩
    · exact h.last.failed i hki hin
  · rw [settle_of_none rfl, hfail, settle_of_none rfl]
    exact h.result
  · rw [settle_events, hcourse, List.flatMap_cons, hfail, List.flatMap_cons, ← settle_events,
      show n - k = n - (k + 1) + 1 by omega, List.range'_succ]
    exact .cons ⟨cause, hcause, rfl⟩ h.events
  · rw [Task.made, hcourse, show n + 1 - k = n + 1 - (k + 1) + 1 by omega, List.range'_succ]
    exact congrArg (_ :: ·) h.made
  · rw [hcourse]
    rintro s hs i hi
    rcases List.mem_cons.mp hs with rfl | hs
    · obtain rfl : k = i := Option.some.inj hi
      omega
    · rcases List.mem_cons.mp hs with rfl | hs
      · obtain rfl : k + 1 = i := Option.some.inj hi
        exact hle
      · exact h.counted s hs i hi

end Task

end Assay.Run
