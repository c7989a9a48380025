import Assay.Json.Basic
import Assay.Number.Whole

/-!
# Documents

A document is a tree of scalars, lists and tables. Where its text is damaged the tree ends in the
node `broken`, so a reader that works in document order meets the damage only after everything in
front of it. Whoever writes the tree also settles how each scalar may be read: the formats differ
in that, and the readers below do not.
-/

namespace Assay.Document

/-- A scalar as a value of its own kind. -/
inductive Atom where
  | null
  | bool (b : Bool)
  | whole (n : Int)
  | real (x : Binary64)
  | text (s : String)
  deriving DecidableEq, Repr, Inhabited

/-- The ways to read a scalar. A way that the scalar does not admit is none. -/
structure Scalar where
  /-- As a text, where nothing but a text is asked for. -/
  text? : Option String := none
  /-- As a value of any kind. -/
  atom? : Option Atom := none
  /-- Whether it counts as absent where a value is optional. -/
  absent? : Option Bool := some false
  /-- As a truth value. -/
  bool? : Option Bool := none
  /-- As a signed whole number. -/
  int? : Option Int := none
  /-- As an unsigned whole number. -/
  nat? : Option Nat := none
  /-- Whether it also stands for an empty list, table or record. -/
  isBlank : Bool := false
  deriving Inhabited

/-- What else is known of a list or table. -/
structure Form where
  /-- A list may stand for a record, giving its fields in order. -/
  positional : Bool := false
  /-- It carries a tag, so only a reader that knows what to expect takes it. -/
  tagged : Bool := false
  /-- It nests too deeply to be read and may only be skipped. -/
  sealed : Bool := false
  deriving Inhabited

/-- A document or a part of one. -/
inductive Node where
  | scalar (s : Scalar)
  | list (items : List Node) (form : Form)
  | table (entries : List (Node × Node)) (form : Form)
  | broken
  deriving Inhabited

/-- Why a document cannot be read. -/
inductive Error where
  /-- It is damaged or has the wrong shape. -/
  | malformed
  /-- A metric family has a type that does not exist. -/
  | unknownType (name : String)
  /-- A sample of a metric family has the wrong shape. -/
  | sample (family : String) (index : Nat)
  deriving DecidableEq, Repr

/-- The wording of an error. What exactly is wrong with the shape is left open. -/
def Error.message : Error → String
  | .malformed => "<reason>"
  | .unknownType name => "unknown metric type '" ++ name ++ "'"
  | .sample family index =>
    "family '" ++ family ++ "' sample #" ++ toString index ++ ": <reason>"

namespace Node

mutual

/-- Whether nothing in a node is damaged. -/
def intact : Node → Bool
  | .scalar _ => true
  | .list items _ => intactItems items
  | .table entries _ => intactEntries entries
  | .broken => false

/-- The same for all items of a list. -/
def intactItems : List Node → Bool
  | [] => true
  | n :: ns => n.intact && intactItems ns

/-- The same for all entries of a table. -/
def intactEntries : List (Node × Node) → Bool
  | [] => true
  | (k, v) :: es => k.intact && v.intact && intactEntries es

end

/-- Passes over a node. -/
def skip (n : Node) : Except Error Unit :=
  if n.intact then .ok () else .error .malformed

/-- Turns a missing reading into an error. -/
def require {α : Type} : Option α → Except Error α
  | some a => .ok a
  | none => .error .malformed

/-- A scalar, and nothing else. -/
def scalar? : Node → Except Error Scalar
  | .scalar s => .ok s
  | _ => .error .malformed

/-- A text. -/
def text (n : Node) : Except Error String := do
  require (← n.scalar?).text?

/-- A truth value. -/
def bool (n : Node) : Except Error Bool := do
  require (← n.scalar?).bool?

/-- A signed whole number of 64 bits. -/
def int64 (n : Node) : Except Error Int := do
  require ((← n.scalar?).int?.filter Number.isInt64)

/-- An unsigned whole number of 32 bits. -/
def uint32 (n : Node) : Except Error Nat := do
  require ((← n.scalar?).nat?.filter (· < Number.words32))

/-- An unsigned whole number of 64 bits. -/
def uint64 (n : Node) : Except Error Nat := do
  require ((← n.scalar?).nat?.filter (· < Number.words64))

/-- A value that may be absent. -/
def optional {α : Type} (read : Node → Except Error α) (n : Node) : Except Error (Option α) :=
  match n with
  | .scalar s => do
    if ← require s.absent? then return none
    else return some (← read n)
  | _ => do return some (← read n)

/-- A scalar of any kind. -/
def atom (n : Node) : Except Error Atom := do
  require (← n.scalar?).atom?

/-- A list whose items are read one after the other. -/
def items {α : Type} (read : Node → Except Error α) : Node → Except Error (List α)
  | .scalar s => if s.isBlank then .ok [] else .error .malformed
  | .list items form => if form.sealed then .error .malformed else items.mapM read
  | _ => .error .malformed

/-- The entries of a table, in order. -/
def entries : Node → Except Error (List (Node × Node))
  | .scalar s => if s.isBlank then .ok [] else .error .malformed
  | .table entries form => if form.sealed then .error .malformed else .ok entries
  | _ => .error .malformed

/-- A table with texts as keys; of two entries under one key the later wins. -/
def dictionary {α : Type} (read : Node → Except Error α) (n : Node) :
    Except Error (Dictionary α) := do
  (← n.entries).foldlM (fun d (k, v) => do return d.insert (← k.text) (← read v)) ∅

/-- A record. Each field has one or more names; `read` takes the value so far, the position of the
field and the field's node. Fields of other names are passed over, and no field may come twice. -/
def record {α : Type} (names : List (List String)) (read : α → Nat → Node → Except Error α)
    (initial : α) (n : Node) : Except Error α :=
  match n with
  | .list items form =>
    if form.positional && !form.sealed then positional names.length 0 initial items
    else .error .malformed
  | _ => do named [] initial (← n.entries)
where
  /-- Reads fields by position. -/
  positional (count : Nat) : Nat → α → List Node → Except Error α
    | _, a, [] => .ok a
    | i, a, item :: items =>
      if i < count then do positional count (i + 1) (← read a i item) items
      else .error .malformed
  /-- Reads fields by name. -/
  named : (seen : List Nat) → α → List (Node × Node) → Except Error α
    | _, a, [] => .ok a
    | seen, a, (k, v) :: rest => do
      let key ← k.text
      match names.findIdx? (·.contains key) with
      | none =>
        v.skip
        named seen a rest
      | some i =>
        if seen.contains i then .error .malformed
        else named (i :: seen) (← read a i v) rest

/-- A number as a JSON value; what is not finite becomes null. -/
def jsonOfAtom : Atom → Json
  | .null => .null
  | .bool b => .bool b
  | .whole n => .whole n
  | .real (.finite s u) => .real (.finite s u)
  | .real _ => .null
  | .text s => .text s

mutual

/-- A value of any shape. -/
def json : Node → Except Error Json
  | .scalar s => do return jsonOfAtom (← require s.atom?)
  | .list items form =>
    if form.sealed || form.tagged then .error .malformed
    else do return .list (← jsonItems items)
  | .table entries form =>
    if form.sealed || form.tagged then .error .malformed
    else do return .ofFields (← jsonEntries entries)
  | .broken => .error .malformed

/-- The items of a list as values. -/
def jsonItems : List Node → Except Error (List Json)
  | [] => .ok []
  | n :: ns => do
    let j ← n.json
    return j :: (← jsonItems ns)

/-- The entries of a table as fields. -/
def jsonEntries : List (Node × Node) → Except Error (List (String × Json))
  | [] => .ok []
  | (k, v) :: es => do
    let key ← k.text
    let j ← v.json
    return (key, j) :: (← jsonEntries es)

end

end Node

/-- A document: its tree, and whether its text ends where the tree does. -/
structure Source where
  root : Node
  complete : Bool
  deriving Inhabited

/-- Reads a whole document. -/
def Source.read {α : Type} (read : Node → Except Error α) (s : Source) : Except Error α := do
  let a ← read s.root
  if s.complete then return a else .error .malformed

end Assay.Document
