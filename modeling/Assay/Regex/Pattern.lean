import Assay.Unicode.CodeSet

/-!
# Patterns

What a regular expression means once its syntax and flags are settled: sets of characters, looks at
the neighbouring characters, sequence, choice and repetition. Whether a repetition prefers more or
fewer rounds does not matter for the question whether a text has a match.
-/

namespace Assay.Regex

open Unicode (CodeSet)

/-- A condition on the characters before and behind a position. -/
inductive Look where
  | textStart
  | textEnd
  | lineStart
  | lineEnd
  | crlfStart
  | crlfEnd
  | wordBoundary (unicode : Bool)
  | notWordBoundary (unicode : Bool)
  | wordStart (unicode : Bool)
  | wordEnd (unicode : Bool)
  | wordStartHalf (unicode : Bool)
  | wordEndHalf (unicode : Bool)
  deriving DecidableEq, Repr, Inhabited

/-- A regular expression with resolved flags. -/
inductive Pattern where
  | empty
  | chars (set : CodeSet)
  | look (l : Look)
  | seq (first second : Pattern)
  | alt (first second : Pattern)
  | rep (body : Pattern) (least : Nat) (most : Option Nat)
  deriving Inhabited, Repr

namespace Pattern

/-- Whether every match is empty. -/
def isEmptyOnly : Pattern → Bool
  | .empty => true
  | .chars _ => false
  | .look _ => true
  | .seq a b => a.isEmptyOnly && b.isEmptyOnly
  | .alt a b => a.isEmptyOnly && b.isEmptyOnly
  | .rep a _ most => a.isEmptyOnly || most == some 0

/-- The number of bytes that encode a code point. -/
def encodedLength (c : Nat) : Nat :=
  if c < 0x80 then 1 else if c < 0x800 then 2 else if c < 0x10000 then 3 else 4

/-- An estimate of the size of the automaton for a pattern, in bytes. -/
def weight : Pattern → Nat
  | .empty => 0
  | .chars s => 32 + (s.ranges.map fun r => 24 * (encodedLength r.2 - 1)).sum
  | .look _ => 32
  | .seq a b => a.weight + b.weight
  | .alt a b => 32 + a.weight + b.weight
  | .rep a least most =>
    let rounds (n : Nat) := if a.isEmptyOnly then min n 1 else n
    match most with
    | none => 32 + max 1 (rounds least) * a.weight
    | some m => rounds m * a.weight + 32 * (rounds m - rounds least)

/-- The largest automaton that is built. -/
def weightLimit : Nat := 10485760

end Pattern

end Assay.Regex
