import Assay.Trigger.Basic

/-!
# The loop of a trigger

A trigger that has been started waits until its clock ticks or it is stopped. On a tick it makes a
request, and once that has ended it either hands over how it came out or waits again. It is stopped,
its clock ticks and its requests end at any time and in any order, so a course of the loop is a list
of moves. A loop that looks up and finds itself stopped while a tick is due may go by either.
`Trigger.course` is the course in which the loop looks at everything that happens at once.
-/

namespace Assay.Trigger

/-- What a loop is at. -/
inductive Stage where
  /-- It waits for a tick, or to be stopped. -/
  | waiting
  /-- A request is under way. -/
  | asking
  | ended
  deriving DecidableEq, Repr

/-- Where a loop stands. -/
structure Loop where
  stage : Stage := .waiting
  /-- Whether the trigger has been stopped. -/
  stopped : Bool := false
  /-- The number of ticks that the loop has not gone by yet. None is lost. -/
  due : Nat := 0
  /-- The number of requests, as far as it can be told. -/
  sent : UInt32 := 0
  /-- How the requests that are not under way have ended, in their order. -/
  replies : List Reply := []
  /-- What was handed over to the one who started the trigger. -/
  delivered : List (Except Error Unit) := []

/-- What happens next. -/
inductive Move where
  | stop
  | tick
  /-- The loop looks what has happened. The flag says what it goes by if there is a choice. -/
  | look (tickFirst : Bool)
  /-- The request that is under way ends. -/
  | reply (r : Reply)
  deriving DecidableEq, Repr

/-- The next number, if there is room for it. -/
def countUp (n : UInt32) : UInt32 :=
  if n.toNat = maxCounted then n else n + 1

namespace Loop

/-- The loop ends and hands over how it came out. -/
def finish (l : Loop) (outcome : Except Error Unit) : Loop :=
  { l with stage := .ended, delivered := l.delivered ++ [outcome] }

/-- The loop goes by a tick and makes a request. -/
def ask (l : Loop) : Loop :=
  { l with stage := .asking, due := l.due - 1, sent := countUp l.sent }

/-- A loop that waits looks what has happened. -/
def look (l : Loop) (tickFirst : Bool) : Loop :=
  if l.stage ≠ .waiting then l
  else if 0 < l.due && (tickFirst || !l.stopped) then l.ask
  else if l.stopped then l.finish (.ok ())
  else l

/-- The request that is under way ends. -/
def reply (t : Trigger) (l : Loop) (r : Reply) : Loop :=
  if l.stage ≠ .asking then l
  else
    let l := { l with stage := .waiting, replies := l.replies ++ [r] }
    match t.verdict r with
    | .ok _ => l.finish (.ok ())
    | .error e => if 0 < t.times && t.times ≤ l.sent.toNat then l.finish (.error e) else l

/-- One move. -/
def move (t : Trigger) (l : Loop) : Move → Loop
  | .stop => { l with stopped := true }
  | .tick => { l with due := l.due + 1 }
  | .look tickFirst => l.look tickFirst
  | .reply r => l.reply t r

/-- The number of requests that have been made, with the one that is under way. -/
def requests (l : Loop) : Nat :=
  l.replies.length + if l.stage = .asking then 1 else 0

end Loop

/-- The loop after some moves. -/
def play (t : Trigger) (moves : List Move) : Loop :=
  moves.foldl (Loop.move t) {}

/-- The moves by which a loop takes notice of a signal at once. -/
def Signal.moves : Signal → List Move
  | .tick r => [.tick, .look true, .reply r]
  | .stop => [.stop, .look false]

end Assay.Trigger
