/-!
# Sets of code points

A set is a list of ranges in ascending order, disjoint and not adjacent. Union, complement and
intersection keep this form.
-/

namespace Assay.Unicode

/-- The largest code point. -/
def lastCode : Nat := 0x10FFFF

/-- A set of code points as ascending ranges, both ends included. -/
structure CodeSet where
  ranges : List (Nat × Nat)
  deriving DecidableEq, Inhabited, Repr

namespace CodeSet

/-- Joins ranges, given by ascending start, that overlap or touch. -/
def join : List (Nat × Nat) → List (Nat × Nat)
  | [] => []
  | (a, b) :: rest =>
    match join rest with
    | [] => [(a, b)]
    | (c, d) :: more => if c ≤ b + 1 then (a, max b d) :: more else (a, b) :: (c, d) :: more

/-- The set of all code points in some range of a list. -/
def ofRanges (rs : List (Nat × Nat)) : CodeSet :=
  ⟨join (rs.mergeSort fun x y => x.1 ≤ y.1)⟩

/-- The set without members. -/
def empty : CodeSet := ⟨[]⟩

/-- The set of all code points up to `last`. -/
def upTo (last : Nat) : CodeSet := ⟨[(0, last)]⟩

/-- One code point. -/
def singleton (c : Nat) : CodeSet := ⟨[(c, c)]⟩

/-- Whether a range of an ascending list has `c` as a member. -/
def inRanges (c : Nat) : List (Nat × Nat) → Bool
  | [] => false
  | (a, b) :: rest => if c < a then false else c ≤ b || inRanges c rest

/-- Membership. -/
def contains (s : CodeSet) (c : Nat) : Bool :=
  inRanges c s.ranges

/-- Members of either set. -/
def union (s t : CodeSet) : CodeSet :=
  ofRanges (s.ranges ++ t.ranges)

/-- The gaps between ranges from `start` on, up to `last`. -/
def gaps (last : Nat) : (start : Nat) → List (Nat × Nat) → List (Nat × Nat)
  | start, [] => if start ≤ last then [(start, last)] else []
  | start, (a, b) :: rest =>
    if start < a then (start, min (a - 1) last) :: gaps last (b + 1) rest
    else gaps last (b + 1) rest

/-- The code points up to `last` that are no members. -/
def complement (last : Nat) (s : CodeSet) : CodeSet :=
  ⟨gaps last 0 s.ranges⟩

/-- Members of both sets, up to `last`. -/
def inter (last : Nat) (s t : CodeSet) : CodeSet :=
  ((s.complement last).union (t.complement last)).complement last

/-- Members of the first set and not of the second, up to `last`. -/
def diff (last : Nat) (s t : CodeSet) : CodeSet :=
  s.inter last (t.complement last)

/-- Members of exactly one of two sets, up to `last`. -/
def symmDiff (last : Nat) (s t : CodeSet) : CodeSet :=
  (s.diff last t).union (t.diff last s)

/-- Whether all members are ASCII. -/
def isAscii (s : CodeSet) : Bool :=
  s.ranges.all fun r => r.2 < 128

/-- Reads the run lengths of a set: outside, inside, outside, and so on. -/
def readRuns : (start : Nat) → List Nat → List (Nat × Nat)
  | start, outside :: inside :: rest =>
    (start + outside, start + outside + inside - 1) :: readRuns (start + outside + inside) rest
  | _, _ => []

end CodeSet

/-- The decimal numbers in a text, whatever stands between them. -/
def numbersIn (cs : List Char) : List Nat :=
  (cs.splitBy fun a b => a.isDigit == b.isDigit).filterMap fun run =>
    if run.all Char.isDigit then some (run.foldl (fun n c => 10 * n + (c.toNat - 48)) 0) else none

/-- The set whose run lengths a text gives. -/
def CodeSet.ofRuns (s : String) : CodeSet :=
  ⟨CodeSet.readRuns 0 (numbersIn s.toList)⟩

end Assay.Unicode
