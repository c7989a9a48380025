import Assay.Command.Arguments
import Assay.Run.Basic
import Assay.Trigger.Basic

/-!
# Carrying out a command

The one command runs cases: the single case of the command line if there is one, and otherwise the
cases of a configuration, once its trigger has ended well. A configuration is checked as a whole
before anything in it is set to work.
-/

namespace Assay.Command

/-- What a command is carried out in. -/
structure World where
  env : Environment
  files : Files
  /-- What happens to a trigger. -/
  signals : Trigger → List Trigger.Signal := Trigger.unansweredSignals
  /-- What the attempt at a case after a number of retries comes to. -/
  attempt : Case → Nat → Run.Attempt := fun c _ => .ofExcept (Run.compare { env } files c)

/-- The bench that cases are run on. -/
def World.bench (w : World) : Run.Bench Unit :=
  .ofAttempts w.attempt

/-- Why a command failed. -/
inductive Error where
  | config (cause : Config.Error)
  | retry (cause : Retry.Error)
  | trigger (cause : Trigger.Error)
  | run (cause : Run.Error)
  deriving DecidableEq, Repr

/-- The wording of an error. -/
def Error.message : Error → String
  | .config cause => cause.message
  | .retry cause => cause.message
  | .trigger cause => cause.message
  | .run cause => cause.message

/-- What is to be done: cases to run, how, and what to wait for before. -/
structure Plan where
  options : Run.Options := {}
  cases : List Case
  trigger : Option Trigger := none

/-- The plan of a configuration. -/
def Plan.ofConfig (env : Environment) (c : Config) : Except Error Plan := do
  let options ← (Run.Options.ofSuite c.suite).mapError .retry
  let trigger ← (c.trigger.mapM (Trigger.ofSettings env)).mapError .trigger
  return { options, cases := c.suite.cases, trigger }

/-- What a command line asks to do. -/
def plan (w : World) (a : Arguments) : Except Error Plan :=
  match a.singleCase? with
  | some c => .ok { cases := [c] }
  | none => do
    Plan.ofConfig w.env (← (Config.load w.env w.files a.config).mapError .config)

/-- How a command ended. -/
structure Ending where
  outcome : Except Error Unit
  /-- What became of the cases, if they were run. -/
  report : Option Run.Report

/-- The ending of a command that failed before any case was run. -/
def Ending.unrun (e : Error) : Ending :=
  { outcome := .error e, report := none }

/-- The ending of a command whose cases were run. -/
def Ending.ofReport (r : Run.Report) : Ending :=
  { outcome :=
      match r.outcome with
      | .ok _ => .ok ()
      | .error e => .error (.run e)
    report := some r }

/-- Waits for the trigger of a plan, if it has one. There is no outcome if the trigger never
ends. -/
def Plan.wait? (w : World) (p : Plan) : Option (Except Error Unit) :=
  match p.trigger with
  | none => some (.ok ())
  | some t => (t.outcome? (w.signals t)).map (·.mapError .trigger)

/-- Carries out a plan, unless its trigger never ends. -/
def Plan.ending? (w : World) (p : Plan) : Option Ending :=
  (p.wait? w).map fun
    | .ok _ => .ofReport (Run.execute w.bench p.options p.cases ())
    | .error e => .unrun e

/-- Carries out what a command line asks for, unless a trigger never ends. -/
def ending? (w : World) (a : Arguments) : Option Ending :=
  match plan w a with
  | .ok p => p.ending? w
  | .error e => some (.unrun e)

/-- The outcome of what a command line asks for, unless a trigger never ends. -/
def outcome? (w : World) (a : Arguments) : Option (Except Error Unit) :=
  (ending? w a).map (·.outcome)

/-- The exit code for an outcome. -/
def exitCode : Except Error Unit → Nat
  | .ok _ => 0
  | .error _ => 1

/-- The exit code for a command line, if the command ends. -/
def exitCode? (w : World) (words : List String) : Option Nat :=
  match parse words with
  | .error refusal => some refusal.exitCode
  | .ok a => (outcome? w a).map exitCode

end Assay.Command
