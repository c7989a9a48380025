import Assay.Yaml.Event
import Assay.Yaml.Scalar
import Assay.Yaml.Scanner

/-!
# YAML documents

An alias repeats the node that its anchor stands at. Anchors are numbered when they are met: a new
anchor by the number of different names met before it. Where a name is used again this number may
be in use already, and an alias repeats the node that got its number last.
-/

namespace Assay.Yaml

open Document (Node Form Source)

/-- The numbers of anchors. -/
structure Anchors where
  /-- The number that a name stands for at this point. -/
  numbers : Dictionary Nat := ∅
  /-- The events at which the nodes of the numbers start, the latest first. -/
  places : List (Nat × Nat) := []

/-- Gives an anchor at an event a number. -/
def Anchors.add (a : Anchors) (anchor : Option String) (place : Nat) : Anchors :=
  match anchor with
  | none => a
  | some name => ⟨a.numbers.insert name a.numbers.size, (a.numbers.size, place) :: a.places⟩

/-- An event with the number of the anchor in place of its name. -/
inductive Part where
  | alias (number : Nat)
  | scalar (tag : Option String) (style : Style) (text : String)
  | listStart (tag : Option String)
  | listEnd
  | tableStart (tag : Option String)
  | tableEnd
  deriving Repr, Inhabited

/-- Numbers the anchors. The events end at an alias without an anchor, and the last component tells
whether that is so. -/
def number : (place : Nat) → Anchors → List Event → List Part × Anchors × Bool
  | _, anchors, [] => ([], anchors, true)
  | place, anchors, e :: es =>
    let go (anchor : Option String) (part : Part) : List Part × Anchors × Bool :=
      let (parts, rest) := number (place + 1) (anchors.add anchor place) es
      (part :: parts, rest)
    match e with
    | .alias name =>
      match anchors.numbers.get? name with
      | some n => go none (.alias n)
      | none => ([], anchors, false)
    | .scalar p style text => go p.anchor (.scalar p.tag style text)
    | .listStart p => go p.anchor (.listStart p.tag)
    | .listEnd => go none .listEnd
    | .tableStart p => go p.anchor (.tableStart p.tag)
    | .tableEnd => go none .tableEnd

/-- The parts of a document. -/
structure Parts where
  parts : Array Part
  /-- The place of the node that an alias repeats. -/
  target : Nat → Option Nat

/-- How many levels of lists and tables can be read. -/
def depthLimit : Nat := 128

/-- How often aliases may be followed in a document. -/
def Parts.aliasLimit (p : Parts) : Nat :=
  100 * p.parts.size

/-- A node that may be passed over but not read. -/
def sealedNode : Node :=
  .list [] { sealed := true }

/-- The form of a collection. -/
def formOf (tag : Option String) (depth : Nat) : Form :=
  { tagged := isLocalTag tag, sealed := depthLimit ≤ depth }

/-- What building a node, or several, comes to: the place behind it, none where the events end
within it, and how often aliases have been followed. -/
structure Built (α : Type) where
  value : α
  place : Option Nat
  followed : Nat

namespace Parts

mutual

/-- Builds the node at a place. -/
def build (p : Parts) : (rounds : Nat) → (depth followed place : Nat) → Built Node
  | 0, _, followed, _ => ⟨.broken, none, followed⟩
  | rounds + 1, depth, followed, place =>
    match p.parts[place]? with
    | some (.alias n) =>
      if p.aliasLimit ≤ followed ∨ depthLimit < depth then ⟨sealedNode, some (place + 1), followed⟩
      else
        match p.target n with
        | some target =>
          let b := p.build rounds depth (followed + 1) target
          ⟨b.value, some (place + 1), b.followed⟩
        | none => ⟨sealedNode, some (place + 1), followed⟩
    | some (.scalar tag style text) =>
      ⟨.scalar (scalarOf tag style text), some (place + 1), followed⟩
    | some (.listStart tag) =>
      let b := p.buildItems rounds (depth + 1) followed (place + 1)
      ⟨.list b.value (formOf tag depth), b.place, b.followed⟩
    | some (.tableStart tag) =>
      let b := p.buildEntries rounds (depth + 1) followed (place + 1)
      ⟨.table b.value (formOf tag depth), b.place, b.followed⟩
    | _ => ⟨.broken, none, followed⟩

/-- Builds the items of a list from a place on. -/
def buildItems (p : Parts) : (rounds : Nat) → (depth followed place : Nat) → Built (List Node)
  | 0, _, followed, _ => ⟨[.broken], none, followed⟩
  | rounds + 1, depth, followed, place =>
    match p.parts[place]? with
    | some .listEnd => ⟨[], some (place + 1), followed⟩
    | _ =>
      let item := p.build rounds depth followed place
      match item.place with
      | none => ⟨[item.value], none, item.followed⟩
      | some place =>
        let items := p.buildItems rounds depth item.followed place
        ⟨item.value :: items.value, items.place, items.followed⟩

/-- Builds the entries of a table from a place on. -/
def buildEntries (p : Parts) : (rounds : Nat) → (depth followed place : Nat) →
    Built (List (Node × Node))
  | 0, _, followed, _ => ⟨[(.broken, .broken)], none, followed⟩
  | rounds + 1, depth, followed, place =>
    match p.parts[place]? with
    | some .tableEnd => ⟨[], some (place + 1), followed⟩
    | _ =>
      let key := p.build rounds depth followed place
      match key.place with
      | none => ⟨[(key.value, .broken)], none, key.followed⟩
      | some place =>
        let value := p.build rounds depth key.followed place
        match value.place with
        | none => ⟨[(key.value, value.value)], none, value.followed⟩
        | some place =>
          let entries := p.buildEntries rounds depth value.followed place
          ⟨(key.value, value.value) :: entries.value, entries.place, entries.followed⟩

end

end Parts

/-- Reads a whole text, which holds at most one document. -/
def source (cs : List Char) : Source :=
  let s := Stream.ofTokens (tokens cs)
  if s.empty then ⟨.scalar nothing, true⟩
  else
    let (parts, anchors, known) := number 0 {} s.events
    let p : Parts := ⟨parts.toArray, fun n => anchors.places.lookup n⟩
    let rounds := 2 * (depthLimit + 2) * (parts.length + 2)
    ⟨(p.build rounds 0 0 0).value, s.complete && known⟩

end Assay.Yaml
