import Assay.Case
import Assay.Discrepancy
import Assay.Load

/-!
# Results of a run

What becomes of each case of a run, the tally of all cases, and the events that a listener hears of
while the run goes on.
-/

namespace Assay.Run

/-- Why a case failed. -/
inductive Failure where
  /-- It cannot be run as it is written. -/
  | invalid (cause : Case.Error)
  | load (cause : Load.Error)
  | discrepancy (cause : Discrepancy)
  /-- Its task died. -/
  | crashed (shown message : String)
  deriving DecidableEq, Repr

/-- The wording of a failure. -/
def Failure.message : Failure → String
  | .invalid cause => cause.message
  | .load cause => cause.message
  | .discrepancy cause => cause.message
  | .crashed shown message => "assertion of " ++ shown ++ " panicked: " ++ message

/-- What became of a case. -/
inductive Verdict where
  /-- It passed after some retries. -/
  | passed (retries : Nat)
  /-- No attempt is left, and the last one failed. -/
  | exhausted (retries : Nat) (cause : Failure)
  /-- It failed otherwise than by its attempts. -/
  | aborted (cause : Failure)
  /-- It was not run, or not to its end. -/
  | skipped
  deriving DecidableEq, Repr

/-- The failure of a case, if it failed. -/
def Verdict.failure? : Verdict → Option Failure
  | .exhausted _ cause => some cause
  | .aborted cause => some cause
  | .passed _ => none
  | .skipped => none

/-- The result of a case. -/
structure Result where
  /-- How the case is displayed. -/
  shown : String
  verdict : Verdict
  deriving DecidableEq, Repr

namespace Result

/-- The result of a case that is not run. -/
def skipped (c : Case) : Result :=
  ⟨c.displayName, .skipped⟩

/-- Whether a case passed. -/
def isPassed (r : Result) : Bool :=
  match r.verdict with
  | .passed _ => true
  | _ => false

/-- Whether a case failed. -/
def isFailure (r : Result) : Bool :=
  r.verdict.failure?.isSome

/-- Whether a case was skipped. -/
def isSkipped (r : Result) : Bool :=
  match r.verdict with
  | .skipped => true
  | _ => false

/-- A result in words. -/
def message (r : Result) : String :=
  match r.verdict with
  | .passed 0 => "asserted " ++ r.shown ++ " success"
  | .passed n => "asserted " ++ r.shown ++ " success, retried " ++ toString n ++ " time(s)"
  | .exhausted n _ => "failed to assert " ++ r.shown ++ ", retried " ++ toString n ++ " time(s)"
  | .aborted _ => "failed to assert " ++ r.shown
  | .skipped => "skipped " ++ r.shown

end Result

/-- How many cases passed, failed and were skipped. -/
structure Tally where
  passed : Nat := 0
  failed : Nat := 0
  skipped : Nat := 0
  deriving DecidableEq, Repr

namespace Tally

/-- The tally with one more result. -/
def add (t : Tally) (r : Result) : Tally :=
  match r.verdict with
  | .passed _ => { t with passed := t.passed + 1 }
  | .skipped => { t with skipped := t.skipped + 1 }
  | _ => { t with failed := t.failed + 1 }

/-- The tally of results. -/
def ofResults (rs : List Result) : Tally :=
  rs.foldl add {}

end Tally

/-- Why a run as a whole failed: the number of cases that did. -/
structure Error where
  failed : Nat
  deriving DecidableEq, Repr

/-- The wording of an error. -/
def Error.message (e : Error) : String :=
  "failed to assert " ++ toString e.failed ++ " case(s)"

/-- What a listener hears of. -/
inductive Event where
  /-- A case is about to be tried. -/
  | started (shown : String)
  /-- A case failed and is about to be retried for the given time. -/
  | retrying (shown : String) (retry : Nat) (cause : Failure)
  /-- The result of a case is settled. -/
  | finished (result : Result)
  deriving DecidableEq, Repr

end Assay.Run
