import Assay.Assignment
import Assay.Judge

/-!
# Matching metric families

An expected family must be found under its name and with its kind, and each of its samples needs an
actual sample of its own. A name that begins with the word `notContains` gives instead a pattern
that no actual name may match.
-/

namespace Assay.Judge

open Assignment Assay.Metric

/-- Compares the labels of a list; a label that is missing counts as empty. -/
def labelEntries (j : Judge) (actual : Labels) : List (String × String) → Except Discrepancy Unit
  | [] => .ok ()
  | (name, predicate) :: rest => do
    j.value ("label[" ++ name ++ "]") predicate ((actual.get? name).getD "")
    j.labelEntries actual rest

/-- Compares labels. The actual sample must have at least as many, of whatever names. -/
def labels (j : Judge) (expected actual : Labels) : Except Discrepancy Unit :=
  if actual.size < expected.size then .error (.tooFewLabels expected.size actual.size)
  else j.labelEntries actual expected.entries

/-- Compares the quantiles or buckets of a list, each of which must be there. -/
def keyedEntries (j : Judge) (what : String) (actual : Dictionary String) :
    List (String × String) → Except Discrepancy Unit
  | [] => .ok ()
  | (key, predicate) :: rest =>
    match actual.get? key with
    | none => .error (.missingKey what key)
    | some v => do
      j.value (what ++ "[" ++ key ++ "]") predicate v
      j.keyedEntries what actual rest

/-- Compares two samples, which must be of one shape. Timestamps do not count. -/
def sample (j : Judge) (expected actual : Sample) : Except Discrepancy Unit :=
  match expected, actual with
  | .plain e, .plain a => do
    j.labels e.labels a.labels
    j.value "value" e.value a.value
  | .summary e, .summary a => do
    j.labels e.labels a.labels
    j.value "count" e.count a.count
    j.value "sum" e.sum a.sum
    j.keyedEntries "quantile" a.quantiles e.quantiles.entries
  | .histogram e, .histogram a => do
    j.labels e.labels a.labels
    j.value "count" e.count a.count
    j.value "sum" e.sum a.sum
    j.keyedEntries "bucket" a.buckets e.buckets.entries
  | e, a => .error (.shape e.shape a.shape)

/-- Tries samples, given with their positions. The result holds the positions of those that are
accepted, and what is wrong with the last one that is not. -/
def trySamples (j : Judge) (expected : Sample) :
    List (Sample × Nat) → List Nat × Option Discrepancy
  | [] => ([], none)
  | (s, slot) :: rest =>
    let (slots, last) := j.trySamples expected rest
    match j.sample expected s with
    | .ok _ => (slot :: slots, last)
    | .error e => (slots, last <|> some e)

/-- The positions of the samples that an expected one, given with its position, accepts. -/
def sampleCandidates (j : Judge) (pool : List Sample) (expected : Sample × Nat) :
    Except Discrepancy (List Nat) :=
  match j.trySamples expected.1 pool.zipIdx with
  | ([], some reason) => .error (.sample expected.2 reason)
  | ([], none) => .error (.samplesTaken expected.2)
  | (slots, _) => .ok slots

/-- Compares the samples of two families. The expected samples look for their candidates side by
side. -/
def family (j : Judge) (expected actual : Family) : Except Discrepancy Unit := do
  let candidates ← j.pick.settle (expected.samples.zipIdx.map (j.sampleCandidates actual.samples))
  match assign candidates actual.samples.length with
  | .ok _ => .ok ()
  | .error index => .error (.samplesTaken index)

/-- The word that marks a pattern for families that must not be. Its case does not count. -/
def absenceMark : String := "notContains"

/-- The pattern for families that must not be, if the name of an expected family gives one. -/
def absencePattern? (f : Family) : Option String :=
  match Text.cut (· = ' ') f.name.toList with
  | some (mark, rest) =>
    if Text.sameLetters (String.ofList mark) absenceMark then
      some (String.ofList (Text.trim rest))
    else none
  | none => none

/-- A pattern with what it matches. -/
abbrev Absence := String × (String → Bool)

/-- The patterns of a list of expected families, compiled. -/
def absences (engine : Regex.Engine) : List Family → Except Discrepancy (List Absence)
  | [] => .ok []
  | f :: rest =>
    match absencePattern? f with
    | none => absences engine rest
    | some pattern =>
      match engine.matcher? pattern with
      | none => .error (.badPattern pattern)
      | some accepts => do return (pattern, accepts) :: (← absences engine rest)

/-- Checks that no actual name matches a pattern. -/
def absent (actual : List Family) (entry : Absence) : Except Discrepancy Unit :=
  match actual.find? fun f => entry.2 f.name with
  | some found => .error (.familyPresent entry.1 found.name)
  | none => .ok ()

/-- Checks that no actual name matches a pattern of a list. The patterns are tried side by side. -/
def checkAbsent (j : Judge) (actual : List Family) (entries : List Absence) :
    Except Discrepancy Unit := do
  let _ ← j.pick.settle (entries.map (absent actual))

/-- Families by ascending name; those of one name keep their order. -/
def byName (families : List Family) : List Family :=
  families.mergeSort fun a b => (compare a.name b.name).isLE

/-- Binds expected families, in ascending order of names, to families of a list in the same order.
Each step uses up one actual family. -/
def bindFamilies (j : Judge) : (actual expected : List Family) → Except Discrepancy Unit
  | _, [] => .ok ()
  | [], e :: _ => .error (.familyNotFound e.name e.kind)
  | a :: actual, e :: rest =>
    if compare a.name e.name = .gt then .error (.familyNotFound e.name e.kind)
    else if a.name = e.name ∧ a.kind = e.kind then do
      (j.family e a).mapError (.family e.name)
      j.bindFamilies actual rest
    else j.bindFamilies actual (e :: rest)

/-- Compares lists of families. -/
def metrics (j : Judge) (expected actual : List Family) : Except Discrepancy Unit :=
  if expected.isEmpty then .error (.nothingExpected "metrics")
  else do
    j.checkAbsent actual (← absences j.engine expected)
    let present := expected.filter fun f => (absencePattern? f).isNone
    j.bindFamilies (byName actual) (byName present)

end Assay.Judge
