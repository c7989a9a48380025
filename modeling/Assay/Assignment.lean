/-!
# Assigning slots

Every entity of a list is given a slot of its own out of its candidates. Entities are served in
order; when all candidates of one are taken, owners of taken slots are moved to other candidates
along an augmenting path. A search for such a path marks the slots it has visited and never comes
back to one.
-/

namespace Assay.Assignment

/-- Who owns each slot, and which slots the current search has visited. -/
structure Bindings where
  owner : Array (Option Nat)
  visited : Array Bool
  deriving DecidableEq, Repr

namespace Bindings

/-- No slot is owned or visited. -/
def initial (pool : Nat) : Bindings :=
  ⟨.replicate pool none, .replicate pool false⟩

/-- Forgets which slots have been visited. -/
def restart (b : Bindings) : Bindings :=
  { b with visited := .replicate b.owner.size false }

/-- Marks a slot as visited. -/
def visit (b : Bindings) (slot : Nat) : Bindings :=
  { b with visited := b.visited.setIfInBounds slot true }

/-- Makes an entity the owner of a slot. -/
def bind (b : Bindings) (slot entity : Nat) : Bindings :=
  { b with owner := b.owner.setIfInBounds slot (some entity) }

/-- Whether a slot has been visited. -/
def isVisited (b : Bindings) (slot : Nat) : Bool :=
  b.visited.getD slot false

/-- The owner of a slot, if it has one. -/
def ownerOf? (b : Bindings) (slot : Nat) : Option Nat :=
  b.owner.getD slot none

end Bindings

/-- Tries candidates in order: one that is free, or whose owner finds another slot by `move`, is
given to the entity. -/
def tryAll (move : Nat → Bindings → Bool × Bindings) (entity : Nat) :
    List Nat → Bindings → Bool × Bindings
  | [], b => (false, b)
  | slot :: slots, b =>
    if b.isVisited slot then tryAll move entity slots b
    else
      let (free, b) :=
        match b.ownerOf? slot with
        | none => (true, b.visit slot)
        | some other => move other (b.visit slot)
      if free then (true, b.bind slot entity) else tryAll move entity slots b

/-- Finds a slot for an entity, moving owners along paths of at most `depth` slots. A path never
visits a slot twice, so a depth of one more than the number of slots bounds nothing. -/
def augment (candidates : List (List Nat)) :
    (depth : Nat) → (entity : Nat) → Bindings → Bool × Bindings
  | 0, _, b => (false, b)
  | depth + 1, entity, b =>
    tryAll (augment candidates depth) entity (candidates.getD entity []) b

/-- Serves the entities from `entity` on, as many as there are left to serve. The error names the
first for which there is no slot. -/
def serve (candidates : List (List Nat)) (pool : Nat) :
    (left : Nat) → (entity : Nat) → Bindings → Except Nat Bindings
  | 0, _, b => .ok b
  | left + 1, entity, b =>
    match augment candidates (pool + 1) entity b.restart with
    | (true, b) => serve candidates pool left (entity + 1) b
    | (false, _) => .error entity

/-- Gives every entity a slot below `pool` out of its candidates, no slot twice. The error names
the first entity with which that fails. -/
def assign (candidates : List (List Nat)) (pool : Nat) : Except Nat (List Nat) := do
  let b ← serve candidates pool candidates.length 0 (.initial pool)
  return (List.range candidates.length).map fun entity =>
    (b.owner.findIdx? (· == some entity)).getD 0

end Assay.Assignment
