import Assay.Retry
import Assay.Run.Result

/-!
# The task of one case

A task takes its case from the start to a result in small steps: it is let through and started,
then it alternates between attempts and pauses. Whether the run is cancelled is looked at before the
start and after each pause, and nowhere else; what follows on such a look is a step of its own.
Left alone, a task settles after finitely many steps.
-/

namespace Assay.Run

/-- How an attempt ends. -/
inductive Attempt where
  | passed
  | failed (cause : Failure)
  /-- The task of the case died in it. -/
  | crashed (message : String)
  deriving DecidableEq, Repr

/-- What a run works with. The world `σ` is what attempts see; a listener may change it, and a
listener that dies takes the task of the case with it. -/
structure Bench (σ : Type) where
  /-- The attempt at a case after a number of retries. -/
  attempt : σ → Case → Nat → Attempt
  /-- Tells that a case is about to be tried. -/
  started : σ → Case → Except String σ := fun world _ => .ok world
  /-- Tells that a case is about to be retried for the given time. -/
  retrying : σ → Case → Nat → Except String σ := fun world _ _ => .ok world

/-- How far a case has come. -/
inductive Task where
  | waiting
  /-- The run was not cancelled, and the case is about to be started. -/
  | entered
  /-- The attempt after a number of retries is under way. -/
  | trying (retries : Nat)
  /-- A pause in front of the retry with a number. -/
  | pausing (retry : Nat)
  /-- The result is settled, and the run has not been told yet. -/
  | settled (result : Result)
  /-- The task is over and its result not yet collected. -/
  | ended (result : Result) (crashed : Bool)
  | collected (result : Result)
  deriving DecidableEq, Repr

/-- What a step of a task leads to. -/
structure Step (σ : Type) where
  task : Task
  events : List Event := []
  world : σ

namespace Task

/-- A task that died with a message. -/
def dead (c : Case) (message : String) : Task :=
  .ended ⟨c.displayName, .aborted (.crashed c.displayName message)⟩ true

/-- A task with a result. -/
def done (c : Case) (v : Verdict) : Task :=
  .settled ⟨c.displayName, v⟩

variable {σ : Type}

/-- Starts a case. -/
def start (bench : Bench σ) (c : Case) (world : σ) : Step σ :=
  let events := [Event.started c.displayName]
  match bench.started world c with
  | .error message => { task := dead c message, events, world }
  | .ok world =>
    match c.validate with
    | .error cause => { task := done c (.aborted (.invalid cause)), events, world }
    | .ok _ => { task := .trying 0, events, world }

/-- Goes on after an attempt that failed. -/
def fail (bench : Bench σ) (attempts : Nat) (c : Case) (retries : Nat) (cause : Failure)
    (world : σ) : Step σ :=
  if attempts ≤ retries + 1 then { task := done c (.exhausted retries cause), world }
  else
    let events := [Event.retrying c.displayName (retries + 1) cause]
    match bench.retrying world c (retries + 1) with
    | .error message => { task := dead c message, events, world }
    | .ok world => { task := .pausing (retries + 1), events, world }

/-- One step of a task, given how many attempts there are in all and whether the run is
cancelled. -/
def advance (bench : Bench σ) (attempts : Nat) (c : Case) (cancelled : Bool) (task : Task)
    (world : σ) : Step σ :=
  match task with
  | .waiting =>
    { task := if cancelled then done c .skipped else .entered, world }
  | .entered => start bench c world
  | .trying retries =>
    match bench.attempt world c retries with
    | .passed => { task := done c (.passed retries), world }
    | .failed cause => fail bench attempts c retries cause world
    | .crashed message => { task := dead c message, world }
  | .pausing retry =>
    { task := if cancelled then done c .skipped else .trying retry, world }
  | .settled r => { task := .ended r false, world }
  | .ended .. => { task, world }
  | .collected _ => { task, world }

/-- The result of a task, if it has one. -/
def result? : Task → Option Result
  | .settled r => some r
  | .ended r _ => some r
  | .collected r => some r
  | _ => none

/-- A bound on the number of steps until the result is collected. -/
def rank (attempts : Nat) : Task → Nat
  | .waiting => 2 * attempts + 5
  | .entered => 2 * attempts + 4
  | .trying retries => 2 * (attempts - retries) + 3
  | .pausing retry => 2 * (attempts - retry) + 4
  | .settled _ => 2
  | .ended .. => 1
  | .collected _ => 0

theorem rank_start_lt (bench : Bench σ) (attempts : Nat) (c : Case) (world : σ) :
    (start bench c world).task.rank attempts < 2 * attempts + 4 := by
  unfold start
  split
  · simp [dead, rank]
  · split <;> simp [done, rank]

theorem rank_fail_lt (bench : Bench σ) (attempts : Nat) (c : Case) (retries : Nat)
    (cause : Failure) (world : σ) :
    (fail bench attempts c retries cause world).task.rank attempts <
      2 * (attempts - retries) + 3 := by
  unfold fail
  split
  · simp [done, rank]
  · split
    · simp [dead, rank]
    · simp only [rank]
      omega

/-- Every step of a task that is not over comes closer to its end. -/
theorem rank_advance_lt (bench : Bench σ) (attempts : Nat) (c : Case) (cancelled : Bool)
    {task : Task} (world : σ) (h : 1 < task.rank attempts) :
    (advance bench attempts c cancelled task world).task.rank attempts < task.rank attempts := by
  cases task with
  | waiting =>
    simp only [advance]
    split <;> simp [done, rank]
  | entered => exact rank_start_lt bench attempts c world
  | trying retries =>
    simp only [advance]
    split
    · simp [done, rank]
    · exact rank_fail_lt bench attempts c retries _ world
    · simp [dead, rank]
  | pausing retry =>
    simp only [advance]
    split <;> simp [done, rank]
  | settled r => simp [advance, rank]
  | ended r crashed => simp [rank] at h
  | collected r => simp [rank] at h

theorem one_lt_rank {task : Task} (attempts : Nat) (h : task.result? = none) :
    1 < task.rank attempts := by
  cases task <;> simp_all [result?, rank]

/-- A settled result, what was heard on the way to it, and the world in the end. -/
structure Settlement (σ : Type) where
  result : Result
  events : List Event
  world : σ

/-- Takes a task to its result when nothing is cancelled. -/
def settle (bench : Bench σ) (attempts : Nat) (c : Case) (task : Task) (world : σ) :
    Settlement σ :=
  match _h : task.result? with
  | some result => { result, events := [], world }
  | none =>
    let next := advance bench attempts c false task world
    let rest := settle bench attempts c next.task next.world
    { rest with events := next.events ++ rest.events }
  termination_by task.rank attempts
  decreasing_by exact rank_advance_lt bench attempts c false world (one_lt_rank attempts _h)

/-- What becomes of a case that is run by itself. -/
def alone (bench : Bench σ) (attempts : Nat) (c : Case) (world : σ) : Settlement σ :=
  settle bench attempts c .waiting world

end Task

end Assay.Run
