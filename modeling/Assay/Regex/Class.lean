import Assay.Regex.Escape

/-!
# Bracketed classes

A class is a union of literals, ranges, named classes and nested classes, possibly combined with
others by `&&`, `--` and `~~`, which bind from the left. The reader keeps the classes that are open
on a stack; each round reads at least one character. It also measures how deep the class nests.
-/

namespace Assay.Regex

open Unicode (CodeSet)

/-- An operation on sets. -/
inductive SetOp where
  | inter
  | diff
  | symmDiff

/-- The set an operation yields. -/
def SetOp.apply (last : Nat) : SetOp → CodeSet → CodeSet → CodeSet
  | .inter => CodeSet.inter last
  | .diff => CodeSet.diff last
  | .symmDiff => CodeSet.symmDiff last

/-- The items of a union read so far: their ranges, number and greatest depth. -/
structure ClassUnion where
  ranges : List (Nat × Nat) := []
  count : Nat := 0
  depth : Nat := 0

namespace ClassUnion

/-- Adds an item. -/
def push (u : ClassUnion) (ranges : List (Nat × Nat)) (depth : Nat) : ClassUnion :=
  ⟨ranges ++ u.ranges, u.count + 1, max u.depth depth⟩

/-- The set of the items. -/
def set (u : ClassUnion) : CodeSet :=
  .ofRanges u.ranges

/-- The depth, which counts a union of several items as a level of its own. -/
def level (u : ClassUnion) : Nat :=
  if 1 < u.count then u.depth + 1 else u.depth

end ClassUnion

/-- A class that has been opened: the left side of a pending operation and the current union. -/
structure OpenClass where
  negated : Bool
  pending : Option (CodeSet × Nat × SetOp)
  items : ClassUnion

namespace OpenClass

/-- What has been read so far as one set, with its depth. -/
def combined (f : Flags) (c : OpenClass) : CodeSet × Nat :=
  match c.pending with
  | none => (c.items.set, c.items.level)
  | some (left, depth, op) =>
    (op.apply f.last (f.fold left) (f.fold c.items.set), max depth c.items.level + 1)

/-- Makes what has been read so far the left side of an operation. -/
def operate (f : Flags) (op : SetOp) (c : OpenClass) : OpenClass :=
  let (left, depth) := c.combined f
  { c with pending := some (left, depth, op), items := {} }

/-- The set and depth of a class at its closing bracket. -/
def close (f : Flags) (c : OpenClass) : CodeSet × Nat :=
  let (s, depth) := c.combined f
  (f.negateIf c.negated (f.fold s), depth + 1)

end OpenClass

/-- The ASCII classes by name. -/
def asciiClass? : String → Option (List (Nat × Nat))
  | "alnum" => some [(48, 57), (65, 90), (97, 122)]
  | "alpha" => some [(65, 90), (97, 122)]
  | "ascii" => some [(0, 127)]
  | "blank" => some [(9, 9), (32, 32)]
  | "cntrl" => some [(0, 31), (127, 127)]
  | "digit" => some [(48, 57)]
  | "graph" => some [(33, 126)]
  | "lower" => some [(97, 122)]
  | "print" => some [(32, 126)]
  | "punct" => some [(33, 47), (58, 64), (91, 96), (123, 126)]
  | "space" => some [(9, 13), (32, 32)]
  | "upper" => some [(65, 90)]
  | "word" => some [(48, 57), (65, 90), (95, 95), (97, 122)]
  | "xdigit" => some [(48, 57), (65, 70), (97, 102)]
  | _ => none

/-- An ASCII class such as `[:alpha:]`, read behind its opening bracket. -/
def namedAscii? (f : Flags) (cs : List Char) : Option (CodeSet × List Char) := do
  let rest ← Text.dropPrefix? [':'] cs
  let (negated, rest) :=
    match rest with
    | '^' :: more => (true, more)
    | _ => (false, rest)
  let (name, rest) ← Text.cut (· = ':') rest
  let rest ← Text.dropPrefix? [']'] rest
  let ranges ← asciiClass? (String.ofList name)
  return (f.negateIf negated (f.fold (.ofRanges ranges)), rest)

/-- What stands behind an opening bracket: a mark of negation, then hyphens, or else a closing
bracket, that stand for themselves. -/
def openClass (f : Flags) (cs : List Char) : Option (OpenClass × List Char) :=
  let cs := f.advance cs
  let (negated, cs) :=
    match cs with
    | '^' :: _ => (true, f.advance cs)
    | _ => (false, cs)
  let (items, cs) := hyphens cs.length {} cs
  match cs with
  | [] => none
  | ']' :: _ =>
    if items.count = 0 then some (⟨negated, none, items.push [(93, 93)] 0⟩, f.advance cs)
    else some (⟨negated, none, items⟩, cs)
  | _ => some (⟨negated, none, items⟩, cs)
where
  /-- Reads the hyphens at the front. -/
  hyphens : Nat → ClassUnion → List Char → ClassUnion × List Char
    | 0, u, cs => (u, cs)
    | rounds + 1, u, cs =>
      match cs with
      | '-' :: _ => hyphens rounds (u.push [(45, 45)] 0) (f.advance cs)
      | _ => (u, cs)

/-- One item of a class or an end of a range. -/
def classElement (f : Flags) : List Char → Option (Element × List Char)
  | [] => none
  | '\\' :: cs => escape f cs
  | c :: cs => some (.literal c false, cs)

/-- The ranges of an element that stands alone. -/
def Element.ranges? (f : Flags) : Element → Option (List (Nat × Nat))
  | .literal c _ => (literalCode? f c).map fun n => [(n, n)]
  | .set s => some s.ranges
  | _ => none

/-- A literal, a named class or a range. A hyphen in front of `]` or `-` makes no range. -/
def classRange (f : Flags) (cs : List Char) : Option (List (Nat × Nat) × List Char) := do
  let (first, rest) ← classElement f cs
  let rest := f.skip rest
  match rest with
  | [] => none
  | '-' :: more =>
    match f.skip more with
    | [] => none
    | c :: _ =>
      if c = ']' ∨ c = '-' then return (← first.ranges? f, rest)
      else
        let (second, rest) ← classElement f (f.skip more)
        match first, second with
        | .literal a _, .literal b _ =>
          let low ← literalCode? f a
          let high ← literalCode? f b
          guard (low ≤ high)
          return ([(low, high)], rest)
        | _, _ => none
  | _ => return (← first.ranges? f, rest)

/-- Reads the rest of a class with the classes around it on a stack. -/
def classRest (f : Flags) : (rounds : Nat) → List OpenClass → OpenClass → List Char →
    Option (CodeSet × Nat × List Char)
  | 0, _, _, _ => none
  | rounds + 1, stack, c, cs =>
    match f.skip cs with
    | [] => none
    | '[' :: rest =>
      match namedAscii? f rest with
      | some (s, rest) => classRest f rounds stack { c with items := c.items.push s.ranges 0 } rest
      | none => do
        let (inner, rest) ← openClass f ('[' :: rest)
        classRest f rounds (c :: stack) inner rest
    | ']' :: rest =>
      let (s, depth) := c.close f
      match stack with
      | [] => some (s, depth, rest)
      | outer :: stack =>
        classRest f rounds stack { outer with items := outer.items.push s.ranges depth } rest
    | '&' :: '&' :: rest => classRest f rounds stack (c.operate f .inter) rest
    | '-' :: '-' :: rest => classRest f rounds stack (c.operate f .diff) rest
    | '~' :: '~' :: rest => classRest f rounds stack (c.operate f .symmDiff) rest
    | cs => do
      let (ranges, rest) ← classRange f cs
      classRest f rounds stack { c with items := c.items.push ranges 0 } rest

/-- The set and the depth of the class at the front of a text, and what follows it. -/
def bracketClass (f : Flags) (cs : List Char) : Option (CodeSet × Nat × List Char) := do
  let (c, rest) ← openClass f cs
  let (s, depth, rest) ← classRest f (cs.length + 1) [] c rest
  guard (f.unicode || s.isAscii)
  return (s, depth, rest)

end Assay.Regex
