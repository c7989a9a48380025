import Assay.Duration
import Assay.Trace.Basic

/-!
# Retries

How often a case that fails is tried again, and how long to wait in between: first as it is
written, then as a policy that any setting with a readable interval leads to.
-/

namespace Assay

open Document (Node)

/-- Retries as they are written. -/
structure Retry where
  /-- The number of attempts after the first one. -/
  count : Int := 0
  /-- The pause between attempts, in milliseconds or as a duration. -/
  interval : Option Quantity := none
  deriving DecidableEq, Repr, Inhabited

namespace Retry

/-- Why there is no policy: the interval, as it is written, is not a duration. -/
structure Error where
  value : String
  cause : Duration.Error
  deriving DecidableEq, Repr

/-- The wording of an error. -/
def Error.message (e : Error) : String :=
  "invalid retry interval '" ++ e.value ++ "': " ++ e.cause.message

/-- When a case is tried again. -/
structure Policy where
  /-- The number of attempts after the first one. -/
  count : Nat := 1
  /-- The pause between attempts in nanoseconds. -/
  nanos : Nat := 0
  deriving DecidableEq, Repr, Inhabited

/-- The largest number of attempts that is counted. -/
def maxAttempts : Nat := Number.words32 - 1

/-- The number of all attempts. -/
def Policy.attempts (p : Policy) : Nat :=
  min (p.count + 1) maxAttempts

/-- There is at least one attempt. -/
theorem Policy.attempts_pos (p : Policy) : 0 < p.attempts := by
  simp only [attempts, maxAttempts, Number.words32]
  omega

/-- Reads retries. -/
def read : Node → Except Document.Error Retry :=
  Node.record [["count"], ["interval"]] (fun r i n => do
    match i with
    | 0 => return { r with count := ← n.int64 }
    | _ => return { r with interval := ← n.optional Quantity.read }) {}

/-- The count of a policy. What is not positive, or too large to be counted, means one retry. -/
def policyCount (count : Int) : Nat :=
  if 0 < count ∧ Number.isUInt32 count then count.toNat else 1

/-- The pause in place of a negative one, in nanoseconds. -/
def fallbackNanos : Nat := 1000000000

/-- The pause of a policy in nanoseconds. -/
def policyNanos : Option Quantity → Except Error Nat
  | none => .ok 0
  | some (.int millis) => .ok (if millis < 0 then fallbackNanos else millis.toNat * 1000000)
  | some (.text s) =>
    if (Text.trim s.toList).isEmpty then .ok 0
    else
      match Duration.parse s with
      | .error cause => .error ⟨s, cause⟩
      | .ok d => .ok (if d.negative ∧ d.nanos ≠ 0 then fallbackNanos else d.nanos)

/-- The policy that is written. -/
def policy (r : Retry) : Except Error Policy := do
  return { count := policyCount r.count, nanos := ← policyNanos r.interval }

end Retry

end Assay
