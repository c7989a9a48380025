import Assay.Metric.Match
import Assay.Shared

/-!
# Matching metric families with shared predicates

Families are matched as a judge matches them, with predicates from a cache. The expected samples of
a family look for their candidates side by side; everything else is done one after the other.
-/

namespace Assay.Shared

open Assignment Assay.Metric
open Predicate (Work)

/-- Compares the labels of a list; a label that is missing counts as empty. -/
def labelEntries (actual : Labels) : List (String × String) → ExceptT Discrepancy Work Unit
  | [] => return ()
  | (name, predicate) :: rest => do
    value ("label[" ++ name ++ "]") predicate ((actual.get? name).getD "")
    labelEntries actual rest

/-- Compares labels, of which the actual sample must have at least as many. -/
def labels (expected actual : Labels) : ExceptT Discrepancy Work Unit :=
  if actual.size < expected.size then throw (.tooFewLabels expected.size actual.size)
  else labelEntries actual expected.entries

/-- Compares the quantiles or buckets of a list, each of which must be there. -/
def keyedEntries (what : String) (actual : Dictionary String) :
    List (String × String) → ExceptT Discrepancy Work Unit
  | [] => return ()
  | (key, predicate) :: rest =>
    match actual.get? key with
    | none => throw (.missingKey what key)
    | some v => do
      value (what ++ "[" ++ key ++ "]") predicate v
      keyedEntries what actual rest

/-- Compares two samples, which must be of one shape. -/
def sample (expected actual : Sample) : ExceptT Discrepancy Work Unit :=
  match expected, actual with
  | .plain e, .plain a => do
    labels e.labels a.labels
    value "value" e.value a.value
  | .summary e, .summary a => do
    labels e.labels a.labels
    value "count" e.count a.count
    value "sum" e.sum a.sum
    keyedEntries "quantile" a.quantiles e.quantiles.entries
  | .histogram e, .histogram a => do
    labels e.labels a.labels
    value "count" e.count a.count
    value "sum" e.sum a.sum
    keyedEntries "bucket" a.buckets e.buckets.entries
  | e, a => throw (.shape e.shape a.shape)

/-- Tries samples, given with their positions. -/
def trySamples (expected : Sample) : List (Sample × Nat) → Work (List Nat × Option Discrepancy)
  | [] => return ([], none)
  | (s, slot) :: rest => do
    let result ← (sample expected s).run
    let (slots, last) ← trySamples expected rest
    match result with
    | .ok _ => return (slot :: slots, last)
    | .error e => return (slots, last <|> some e)

/-- The positions of the samples that an expected one, given with its position, accepts. -/
def sampleCandidates (pool : List Sample) (expected : Sample × Nat) :
    ExceptT Discrepancy Work (List Nat) := .mk do
  match ← trySamples expected.1 pool.zipIdx with
  | ([], some reason) => return .error (.sample expected.2 reason)
  | ([], none) => return .error (.samplesTaken expected.2)
  | (slots, _) => return .ok slots

/-- Compares the samples of two families. -/
def family (expected actual : Family) : ExceptT Discrepancy Work Unit := do
  let candidates ← forEach (sampleCandidates actual.samples) expected.samples.zipIdx
  match assign candidates actual.samples.length with
  | .ok _ => return ()
  | .error index => throw (.samplesTaken index)

/-- Binds expected families, in ascending order of names, to families of a list in the same order.
Each step uses up one actual family. -/
def bindFamilies : (actual expected : List Family) → ExceptT Discrepancy Work Unit
  | _, [] => return ()
  | [], e :: _ => throw (.familyNotFound e.name e.kind)
  | a :: actual, e :: rest =>
    if compare a.name e.name = .gt then throw (.familyNotFound e.name e.kind)
    else if a.name = e.name ∧ a.kind = e.kind then do
      .mk do return (← (family e a).run).mapError (.family e.name)
      bindFamilies actual rest
    else bindFamilies actual (e :: rest)

/-- Checks that no actual name matches a pattern of a list. -/
def checkAbsent (actual : List Family) (entries : List Judge.Absence) :
    ExceptT Discrepancy Work Unit := do
  let _ ← forEach (fun entry => liftM (Judge.absent actual entry)) entries

/-- Compares lists of families. -/
def metrics (engine : Regex.Engine) (expected actual : List Family) :
    ExceptT Discrepancy Work Unit :=
  if expected.isEmpty then throw (.nothingExpected "metrics")
  else do
    checkAbsent actual (← Judge.absences engine expected)
    let present := expected.filter fun f => (Judge.absencePattern? f).isNone
    bindFamilies (Judge.byName actual) (Judge.byName present)

end Assay.Shared
