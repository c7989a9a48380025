import Assay.Text.Cut
import Assay.Trigger.Request

/-!
# Triggers

A trigger makes a request at every tick of its clock until one is answered with success, until as
many have failed as are allowed, or until it is stopped. What happens to it from outside is a list
of signals, so every course of a trigger is the course under some list.
-/

namespace Assay

/-- A trigger that can be started. -/
structure Trigger where
  /-- The time between two ticks in nanoseconds. -/
  nanos : Nat
  /-- The number of requests after which to give up, zero for never. -/
  times : Nat
  request : Trigger.Request
  deriving DecidableEq, Repr, Inhabited

namespace Trigger

/-- The trigger for a request. -/
def make (env : Environment) (nanos times : Nat) (url method body : String)
    (headers : Dictionary String) : Except Error Trigger :=
  if nanos = 0 then .error (.notPositive "0ns")
  else do return { nanos, times, request := ← Request.make env url method body headers }

/-- The trigger that is written. -/
def ofSettings (env : Environment) (s : Settings) : Except Error Trigger :=
  if !Text.sameLetters s.action "http" then .error (.unknownAction s.action)
  else do make env (← s.nanos) s.times s.url s.method s.body s.headers

/-- How a request ends. -/
inductive Reply where
  | unreachable
  | status (code : Nat)
  deriving DecidableEq, Repr

/-- Whether a reply to a trigger's request is a success, and what is wrong otherwise. -/
def verdict (t : Trigger) : Reply → Except Error Unit
  | .unreachable => .error (.unreachable t.request.url)
  | .status code => if code = 200 then .ok () else .error (.status t.request.url code)

/-- What happens to a trigger that waits for its next tick. -/
inductive Signal where
  /-- The clock ticks, and the request that is made then ends with a reply. -/
  | tick (reply : Reply)
  | stop
  deriving DecidableEq, Repr

/-- How far a trigger has come. -/
structure Progress where
  /-- The number of requests made. -/
  sent : Nat := 0
  /-- How it ended, if it has. -/
  outcome : Option (Except Error Unit) := none

/-- The largest number of requests that is told from the numbers below. -/
def maxCounted : Nat := Number.words32 - 1

/-- Whether a trigger gives up after a number of requests that have failed. -/
def givesUp (t : Trigger) (sent : Nat) : Bool :=
  0 < t.times && t.times ≤ min sent maxCounted

/-- One signal to a trigger. One that has ended takes no notice. -/
def step (t : Trigger) (p : Progress) (s : Signal) : Progress :=
  match p.outcome, s with
  | some _, _ => p
  | none, .stop => { p with outcome := some (.ok ()) }
  | none, .tick reply =>
    let sent := p.sent + 1
    match t.verdict reply with
    | .ok _ => { sent, outcome := some (.ok ()) }
    | .error e => { sent, outcome := if t.givesUp sent then some (.error e) else none }

/-- The course of a trigger under signals. -/
def course (t : Trigger) (signals : List Signal) : Progress :=
  signals.foldl t.step {}

/-- How a trigger ends under signals, if it does. -/
def outcome? (t : Trigger) (signals : List Signal) : Option (Except Error Unit) :=
  (t.course signals).outcome

/-- The signals to a trigger that reaches nothing and is not stopped, for as long as it goes on. One
that never gives up goes on without an end, and of its signals there are none here. -/
def unansweredSignals (t : Trigger) : List Signal :=
  List.replicate t.times (.tick .unreachable)

end Trigger

end Assay
