import Assay.Unicode.CodeSet
import Assay.Unicode.Table.Fold

/-!
# Ignoring case

Two letters are the same up to case when simple case folding makes them equal. `foldClosure` adds
to a set everything that differs from a member in case only.
-/

namespace Assay.Unicode

/-- The pairs of a run: its first letter, step, length and distance. -/
def pairsOfRun : List Nat → List (List Nat)
  | [first, step, count, distance] =>
    (List.range count).map fun i => [first + i * step, first + i * step + distance]
  | _ => []

/-- The fields of a table, which stand between blanks. -/
def tableFields (table : String) : List (List Nat) :=
  ((table.toList.splitBy fun a b => a.isWhitespace == b.isWhitespace).map numbersIn).filter (!·.isEmpty)

/-- The groups of letters that differ in case only. -/
def caseGroups : List (List Nat) :=
  (tableFields Table.pairRuns).flatMap pairsOfRun ++ tableFields Table.largerGroups

/-- A set with everything that differs from a member in case only. -/
def foldClosure (s : CodeSet) : CodeSet :=
  let touched := caseGroups.filter fun g => g.any s.contains
  CodeSet.ofRanges (s.ranges ++ touched.flatten.map fun c => (c, c))

/-- The same for ASCII letters alone. -/
def asciiFoldClosure (s : CodeSet) : CodeSet :=
  let letters := List.range 26
  let upper := letters.filterMap fun i => if s.contains (97 + i) then some (65 + i, 65 + i) else none
  let lower := letters.filterMap fun i => if s.contains (65 + i) then some (97 + i, 97 + i) else none
  CodeSet.ofRanges (s.ranges ++ upper ++ lower)

end Assay.Unicode
