import Assay.Config
import Assay.Metric.Match
import Assay.Run.Round
import Assay.Trace.Match

/-!
# Runs

A run takes a list of cases to one result each, in the order of the cases, either one case after the
other or all at the same time. It succeeds if no case fails.
-/

namespace Assay.Run

/-- How cases are run. -/
structure Options where
  retry : Retry.Policy := {}
  /-- Whether to stop at the first case that fails. -/
  failFast : Bool := false
  /-- Whether to run all cases at the same time. -/
  concurrent : Bool := false
  deriving DecidableEq, Repr, Inhabited

/-- The options that a configuration asks for. -/
def Options.ofSuite (s : Suite) : Except Retry.Error Options := do
  return { retry := ← s.retry.policy, failFast := s.failFast, concurrent := s.concurrent }

/-- What a run leads to. -/
structure Report where
  /-- One result for each case, in the order of the cases. -/
  results : List Result
  /-- What was heard, in its order. -/
  events : List Event

/-- Whether a run succeeded, with the tally of its cases. -/
def Report.outcome (r : Report) : Except Error Tally :=
  let tally := Tally.ofResults r.results
  if tally.failed = 0 then .ok tally else .error ⟨tally.failed⟩

variable {σ : Type}

/-- Runs one case after the other. -/
def inTurn (rules : Rules σ) : List Case → σ → Report
  | [], _ => ⟨[], []⟩
  | c :: cs, world =>
    let first := Task.alone rules.bench rules.attempts c world
    let events := first.events ++ [.finished first.result]
    if rules.failFast && first.result.isFailure then
      ⟨first.result :: cs.map .skipped, events⟩
    else
      let rest := inTurn rules cs first.world
      ⟨first.result :: rest.results, events ++ rest.events⟩

/-- Runs all cases at the same time. -/
def together (rules : Rules σ) (cases : List Case) (world : σ) : Report :=
  let last := (Round.initial cases world).finish rules
  ⟨last.results, last.log.reverse⟩

/-- What the options ask a run to keep to. -/
def Options.rules (options : Options) (bench : Bench σ) : Rules σ :=
  { bench, attempts := options.retry.attempts, failFast := options.failFast }

/-- Runs cases. -/
def execute (bench : Bench σ) (options : Options) (cases : List Case) (world : σ) : Report :=
  if options.concurrent then together (options.rules bench) cases world
  else inTurn (options.rules bench) cases world

/-- What a step of an attempt comes to as a whole. -/
def Attempt.ofExcept : Except Failure Unit → Attempt
  | .ok _ => .passed
  | .error cause => .failed cause

/-- Loads what a case compares and compares it. Of traces the expected side is loaded first, of
metrics the actual side. -/
def compare (j : Judge) (files : Files) (c : Case) : Except Failure Unit :=
  match c.kind with
  | .traces => do
    let expected ← (Load.traces files c.expected).mapError .load
    let actual ← (Load.traces files c.actual).mapError .load
    (j.snapshot expected actual).mapError .discrepancy
  | .metrics => do
    let actual ← (Load.metrics j.env files c.query).mapError .load
    let expected ← (Load.expectedMetrics files c.expected).mapError .load
    (j.metrics expected actual).mapError .discrepancy

/-- The bench that compares what lies in files. -/
def Bench.ofJudge (j : Judge) : Bench Files where
  attempt files c _ := .ofExcept (compare j files c)

/-- The bench on which attempts depend on nothing but the case and its number of retries. -/
def Bench.ofAttempts (attempt : Case → Nat → Attempt) : Bench Unit where
  attempt _ := attempt

end Assay.Run
