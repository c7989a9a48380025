import Assay.Command.Basic
import Assay.Text.Utf8

/-!
# The program

The outermost layer: it looks at the files that a command needs, takes the steps of a run in real
time, and prints what is heard of them. What a step does and what a run comes to is settled
elsewhere.
-/

namespace Assay.Program

open Command (Arguments Plan World)

/-- The variables of the process. -/
def environment : IO Environment := do
  let octets ← (IO.FS.readBinFile "/proc/self/environ").toBaseIO
  let text := Text.ofUtf8Lossy ((octets.toOption.getD .empty).toList.map UInt8.toNat)
  let entries := (Text.split '\x00' text).filterMap (Text.cut (· = '='))
  return fun name => (entries.lookup name.toList).map String.ofList

/-- What octets are as the content of a file. -/
def content (octets : ByteArray) : Content :=
  match Text.ofUtf8? (octets.toList.map UInt8.toNat) with
  | some cs => .text (String.ofList cs)
  | none => .octets

/-- The files with what lies at a path. The system's error 21 tells a directory. -/
def look (files : Files) (path : String) : IO Files := do
  match ← (IO.FS.readBinFile path).toBaseIO with
  | .ok octets => return files.write path (content octets)
  | .error (.inappropriateType _ 21 _) => return files.makeDirectory path
  | .error _ => return files

/-- The files that cases name. -/
def lookAll (env : Environment) (files : Files) (cases : List Case) : IO Files :=
  cases.foldlM (fun files c => do
    let files ← look (← look files c.expected) c.actual
    match Metric.Source.read env c.query with
    | .file path => look files path
    | .endpoint _ => return files) files

/-- Prints a line about the progress of a run. -/
def say (a : Arguments) (level : Command.LogLevel) (line : String) : IO Unit := do
  if a.logLevel.admits level then IO.eprintln line

/-- Prints what is heard. -/
def tell (a : Arguments) : Run.Event → IO Unit
  | .started shown => say a .info ("asserting " ++ shown)
  | .retrying shown retry cause =>
    say a .warn (shown ++ " failed, retry " ++ toString retry ++ ": " ++ cause.message)
  | .finished result =>
    match result.verdict.failure? with
    | some cause => say a .error (result.message ++ "\n" ++ cause.message)
    | none => say a .info result.message

/-- Waits for a number of nanoseconds. -/
def pause (nanos : Nat) : IO Unit :=
  IO.sleep (UInt32.ofNat (min (nanos / 1000000) 0xFFFFFFFF))

/-- Whether a task waits for its next attempt. -/
def isPausing : Run.Task → Bool
  | .pausing _ => true
  | _ => false

/-- Takes a concurrent run to its end, one turn of every task at a time. -/
partial def watch (a : Arguments) (w : World) (p : Plan) (rules : Run.Rules Files)
    (round : Run.Round Files) : IO (List Run.Result) := do
  if round.isOver then return round.results
  let world ← lookAll w.env w.files (round.tasks.map (·.1))
  let next := Run.Round.sweepOnce rules { round with world, log := [] }
  next.log.reverse.forM (tell a)
  if next.tasks.any (isPausing ·.2) then pause p.options.retry.nanos
  watch a w p rules next

/-- Runs the cases of a plan, one after the other unless they are to run at the same time. -/
def runCases (a : Arguments) (w : World) (p : Plan) (rules : Run.Rules Files) :
    IO (List Run.Result) := do
  if p.options.concurrent then watch a w p rules (.initial p.cases w.files)
  else
    let mut results := []
    let mut stopped := false
    for c in p.cases do
      if stopped then results := .skipped c :: results
      else
        let now ← watch a w p rules (.initial [c] w.files)
        stopped := rules.failFast && now.any (·.isFailure)
        results := now.reverse ++ results
    return results.reverse

/-- Waits for a trigger, of which no request is answered. -/
partial def await (t : Trigger) : IO (Except Trigger.Error Unit) := do
  pause (t.nanos * max t.times 1)
  match t.outcome? t.unansweredSignals with
  | some outcome => return outcome
  | none => await t

/-- Carries out a plan. -/
def carryOut (a : Arguments) (w : World) (p : Plan) : IO (Except Command.Error Unit) := do
  if let some t := p.trigger then
    if let .error e ← await t then return .error (.trigger e)
  let rules : Run.Rules Files :=
    { bench := .ofJudge { env := w.env }, attempts := p.options.retry.attempts
      failFast := p.options.failFast }
  match Run.Report.outcome ⟨← runCases a w p rules, []⟩ with
  | .ok _ => return .ok ()
  | .error e => return .error (.run e)

end Assay.Program

open Assay

/-- Carries out a command line. -/
def main (words : List String) : IO UInt32 := do
  match Command.parse words with
  | .error refusal =>
    IO.eprintln refusal.message
    return UInt32.ofNat refusal.exitCode
  | .ok a =>
    let env ← Program.environment
    let home := Files.names (toString (← IO.currentDir))
    let files ← Program.look { home := home.filter (· ≠ "") } a.config
    let w : Command.World := { env, files }
    let outcome ←
      match Command.plan w a with
      | .ok p => Program.carryOut a w p
      | .error e => pure (.error e)
    if let .error e := outcome then IO.eprintln e.message
    return UInt32.ofNat (Command.exitCode outcome)
