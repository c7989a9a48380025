import Assay.Document.Node
import Assay.Duration

/-!
# Trigger settings

A trigger as it is written in a configuration, before anything of it is checked.
-/

namespace Assay

open Document (Node)

namespace Trigger

/-- A trigger as it is written. A setting that is not given is empty. -/
structure Settings where
  /-- The kind of trigger. -/
  action : String := ""
  /-- The pause between two requests, a duration. -/
  interval : String := ""
  /-- The number of requests after which to give up, zero for never. -/
  times : Nat := 0
  url : String := ""
  method : String := ""
  body : String := ""
  headers : Dictionary String := ∅
  deriving DecidableEq, Inhabited

/-- Why there is no trigger, or why it gave up. -/
inductive Error where
  | unknownAction (action : String)
  /-- The interval, as it is written, is not a duration. -/
  | badInterval (value : String) (cause : Duration.Error)
  /-- The interval, as it is written, is not positive. -/
  | notPositive (value : String)
  | badMethod (method : String)
  | badHeaderName (name : String)
  | badHeaderValue (name : String)
  /-- A request could not be made. -/
  | unreachable (url : String)
  /-- A request was answered with another status than success. -/
  | status (url : String) (code : Nat)
  deriving DecidableEq, Repr

/-- The wording of an error. -/
def Error.message : Error → String
  | .unknownAction action => "unknown trigger action '" ++ action ++ "'"
  | .badInterval value cause => "invalid trigger interval '" ++ value ++ "': " ++ cause.message
  | .notPositive value =>
    "invalid trigger interval '" ++ value ++ "': trigger interval should be > 0"
  | .badMethod method => "invalid trigger method '" ++ method ++ "'"
  | .badHeaderName name => "invalid trigger header name '" ++ name ++ "'"
  | .badHeaderValue name => "invalid value for trigger header '" ++ name ++ "'"
  | .unreachable url => "trigger request to " ++ url ++ " failed: <reason>"
  | .status url code =>
    "trigger request to " ++ url ++ " failed, response status code: " ++ toString code

namespace Settings

/-- Reads the settings of a trigger. -/
def read : Node → Except Document.Error Settings :=
  Node.record [["action"], ["interval"], ["times"], ["url"], ["method"], ["body"], ["headers"]]
    (fun t i n => do
      match i with
      | 0 => return { t with action := ← n.text }
      | 1 => return { t with interval := ← n.text }
      | 2 => return { t with times := ← n.uint32 }
      | 3 => return { t with url := ← n.text }
      | 4 => return { t with method := ← n.text }
      | 5 => return { t with body := ← n.text }
      | _ => return { t with headers := ← n.dictionary Node.text }) {}

/-- The pause between two requests in nanoseconds, which is positive. -/
def nanos (t : Settings) : Except Error Nat :=
  match Duration.parse t.interval with
  | .error cause => .error (.badInterval t.interval cause)
  | .ok d =>
    if d.negative ∨ d.nanos = 0 then .error (.notPositive t.interval) else .ok d.nanos

end Settings

end Trigger

end Assay
