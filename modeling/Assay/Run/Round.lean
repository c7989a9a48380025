import Assay.Run.Task

/-!
# Running cases at the same time

The steps of the tasks of a concurrent run may follow on each other in any order, so a course of it
is a list of moves: a task makes a step, or the result of a task is collected. If a run stops at its
first failure, a case that fails cancels the run by the step after its result is settled, and a case
whose task died does so when that is noticed on collection. `Round.finish` is the course in which
all tasks take turns in the order of their cases, each turn up to where a task has to wait.
-/

namespace Assay.Run

/-- Where a concurrent run stands. -/
structure Round (σ : Type) where
  tasks : List (Case × Task)
  cancelled : Bool := false
  /-- What was heard so far, the latest first. -/
  log : List Event := []
  world : σ

/-- What happens next in a concurrent run, to the task at a position. -/
inductive Move where
  | advance (i : Nat)
  | collect (i : Nat)
  deriving DecidableEq, Repr

/-- What a concurrent run keeps to. -/
structure Rules (σ : Type) where
  bench : Bench σ
  /-- The number of attempts at each case. -/
  attempts : Nat
  /-- Whether to stop at the first case that fails. -/
  failFast : Bool

/-- Whether the next step of a task tells the run of a failure. -/
def Task.tellsFailure : Task → Bool
  | .settled r => r.isFailure
  | _ => false

/-- Whether a task goes on without having to wait. -/
def Task.goesOn : Task → Bool
  | .entered => true
  | .settled _ => true
  | _ => false

namespace Round

variable {σ : Type}

/-- A run of which nothing has happened yet. -/
def initial (cases : List Case) (world : σ) : Round σ :=
  { tasks := cases.map fun c => (c, .waiting), world }

/-- The task at a position makes a step. -/
def advance (rules : Rules σ) (r : Round σ) (i : Nat) : Round σ :=
  match r.tasks[i]? with
  | none => r
  | some (c, task) =>
    let next := task.advance rules.bench rules.attempts c r.cancelled r.world
    { tasks := r.tasks.set i (c, next.task)
      cancelled := r.cancelled || (rules.failFast && task.tellsFailure)
      log := next.events.reverse ++ r.log
      world := next.world }

/-- The result of the task at a position is collected, if the task is over. -/
def collect (rules : Rules σ) (r : Round σ) (i : Nat) : Round σ :=
  match r.tasks[i]? with
  | some (c, .ended result crashed) =>
    { r with
      tasks := r.tasks.set i (c, .collected result)
      cancelled := r.cancelled || (rules.failFast && crashed)
      log := .finished result :: r.log }
  | _ => r

/-- One move. -/
def move (rules : Rules σ) (r : Round σ) : Move → Round σ
  | .advance i => r.advance rules i
  | .collect i => r.collect rules i

/-- A list of moves. -/
def play (rules : Rules σ) (r : Round σ) (moves : List Move) : Round σ :=
  moves.foldl (move rules) r

/-- Whether all results are collected. -/
def isOver (r : Round σ) : Bool :=
  r.tasks.all fun t =>
    match t.2 with
    | .collected _ => true
    | _ => false

/-- The results in the order of the cases. A case that none is collected of is skipped. -/
def results (r : Round σ) : List Result :=
  r.tasks.map fun t =>
    match t.2 with
    | .collected result => result
    | _ => .skipped t.1

/-- The task at a position goes on until it has to wait, for at most a number of steps. -/
def goOn (rules : Rules σ) (i : Nat) : Nat → Round σ → Round σ
  | 0, r => r
  | n + 1, r =>
    match r.tasks[i]? with
    | some (_, task) => if task.goesOn then goOn rules i n (r.advance rules i) else r
    | none => r

/-- The task at a position has its turn. It never goes on for more than two steps. -/
def turn (rules : Rules σ) (r : Round σ) (i : Nat) : Round σ :=
  goOn rules i 2 (r.advance rules i)

/-- Every task has a turn, and then what is over is collected. -/
def sweepOnce (rules : Rules σ) (r : Round σ) : Round σ :=
  let order := List.range r.tasks.length
  order.foldl (collect rules) (order.foldl (turn rules) r)

/-- Sweeps until the run is over, at most a number of times. -/
def sweep (rules : Rules σ) : Nat → Round σ → Round σ
  | 0, r => r
  | n + 1, r => if r.isOver then r else sweep rules n (r.sweepOnce rules)

/-- Takes a run to its end. No task needs more turns than a waiting one has steps. -/
def finish (rules : Rules σ) (r : Round σ) : Round σ :=
  sweep rules (Task.waiting.rank rules.attempts) r

end Round

end Assay.Run
