import Assay.Predicate.Basic

/-!
# Shared predicates

A cache keeps one prepared predicate for every text it has met. Using it takes two steps, a look-up
and, if that finds nothing, the insertion of a new entry unless another user was faster; steps of
several users may interleave. Entries are numbered in the order of their insertion and never change
or disappear.
-/

namespace Assay.Predicate

/-- The entries of a cache in order of insertion, each text once. -/
structure Cache where
  entries : Array (String × Prepared) := #[]

namespace Cache

/-- The cache without entries. -/
def empty : Cache := {}

/-- The number of texts met. -/
def size (c : Cache) : Nat :=
  c.entries.size

/-- Whether no text has been met. -/
def isEmpty (c : Cache) : Bool :=
  c.entries.isEmpty

/-- The number of the entry for a text, if there is one. -/
def find? (c : Cache) (text : String) : Option Nat :=
  c.entries.findIdx? fun e => e.1 == text

/-- The prepared predicate under a number. -/
def get? (c : Cache) (i : Nat) : Option Prepared :=
  c.entries[i]?.map (·.2)

/-- Adds an entry for a text unless there is one; the result names the entry. -/
def insertIfAbsent (c : Cache) (text : String) (engine : Regex.Engine) : Cache × Nat :=
  match c.find? text with
  | some i => (c, i)
  | none => (⟨c.entries.push (text, (Predicate.parse text).ready engine)⟩, c.entries.size)

/-- The entry for a text, which is added if need be. -/
def parse (c : Cache) (text : String) (engine : Regex.Engine := .standard) : Cache × Nat :=
  match c.find? text with
  | some i => (c, i)
  | none => c.insertIfAbsent text engine

/-- Applies the predicate that a text stands for, through the cache. -/
def evaluate (c : Cache) (text actual : String) (engine : Regex.Engine := .standard) :
    Cache × Except Error Unit :=
  let (c, i) := c.parse text engine
  (c, ((c.get? i).getD ((Predicate.parse text).ready engine)).evaluate actual)

end Cache

end Assay.Predicate
