import Assay.Yaml.Token

/-!
# The grammar of YAML documents

The tokens of a document are turned into events: its scalars, aliases, and the starts and ends of
its lists and tables, in order. The grammar is a machine with a stack of goals, each of which says
what has to come next. A key or value that is left out counts as an empty plain scalar.
-/

namespace Assay.Yaml

/-- What may stand in front of a node. -/
structure Properties where
  anchor : Option String := none
  tag : Option String := none
  deriving DecidableEq, Repr, Inhabited

/-- An event. -/
inductive Event where
  | alias (name : String)
  | scalar (properties : Properties) (style : Style) (text : String)
  | listStart (properties : Properties)
  | listEnd
  | tableStart (properties : Properties)
  | tableEnd
  deriving DecidableEq, Repr, Inhabited

/-- The event of a node that is left out. -/
def Event.missing : Event :=
  .scalar {} .plain ""

/-- What has to come next. -/
inductive Goal where
  /-- A node; block collections, and lists that are not indented, only where they are allowed. -/
  | node (block unindented : Bool)
  /-- A further item of a block list, or its end. -/
  | item
  /-- A further item of a list that is not indented, or anything else behind the list. -/
  | unindentedItem
  /-- A further key of a block table, or its end. -/
  | key
  /-- The value of a block table. -/
  | value
  /-- An item of a flow list, or its end. -/
  | flowItem (first : Bool)
  /-- The key of a table of one entry in a flow list. -/
  | pairKey
  /-- The value of that table. -/
  | pairValue
  /-- The end of that table. -/
  | pairEnd
  /-- A key of a flow table, or its end. -/
  | flowKey (first : Bool)
  /-- The value of a flow table. -/
  | flowValue
  /-- The value of a key that stands alone. -/
  | noValue
  deriving DecidableEq, Repr

/-- The abbreviations of tags: handles and what they stand for. -/
abbrev Handles := List (String × String)

/-- The abbreviations that need no directive. -/
def defaultHandles : Handles :=
  [("!", "!"), ("!!", "tag:yaml.org,2002:")]

/-- A tag in full. -/
def TagText.resolve (handles : Handles) (t : TagText) : Option String :=
  if t.handle.isEmpty then some t.suffix else (handles.lookup t.handle).map (· ++ t.suffix)

/-- The properties in front of a node, which come in either order. -/
def properties (handles : Handles) : List Token → Option (Properties × List Token)
  | .anchor a :: .tag t :: rest => do return (⟨some a, some (← t.resolve handles)⟩, rest)
  | .tag t :: .anchor a :: rest => do return (⟨some a, some (← t.resolve handles)⟩, rest)
  | .anchor a :: rest => some (⟨some a, none⟩, rest)
  | .tag t :: rest => do return (⟨none, some (← t.resolve handles)⟩, rest)
  | rest => some ({}, rest)

/-- What reaching a goal comes to: events, goals to reach next, and the tokens left. -/
structure Step where
  events : List Event
  goals : List Goal
  rest : List Token

/-- Reads a node behind its properties. Of a collection only the start is read. -/
def content (p : Properties) (block unindented : Bool) : List Token → Option Step
  | [] => none
  | t :: rest =>
    match t with
    | .scalar style text =>
      let tag := if p.tag = some "!" then none else p.tag
      some ⟨[.scalar { p with tag } style text], [], rest⟩
    | .flowListStart => some ⟨[.listStart p], [.flowItem true], rest⟩
    | .flowTableStart => some ⟨[.tableStart p], [.flowKey true], rest⟩
    | _ =>
      if unindented && t == .blockEntry then some ⟨[.listStart p], [.unindentedItem], t :: rest⟩
      else if block && t == .blockListStart then some ⟨[.listStart p], [.item], rest⟩
      else if block && t == .blockTableStart then some ⟨[.tableStart p], [.key], rest⟩
      else if p.anchor.isSome || p.tag.isSome then some ⟨[.scalar p .plain ""], [], t :: rest⟩
      else none

/-- Reads a node. -/
def node (handles : Handles) (block unindented : Bool) (tokens : List Token) : Option Step :=
  match tokens with
  | .alias name :: rest => some ⟨[.alias name], [], rest⟩
  | _ => do
    let (p, rest) ← properties handles tokens
    content p block unindented rest

/-- Goes on with a node, unless one of the given tokens shows that it is left out. -/
def nodeUnless (ends : List Token) (block unindented : Bool) (next : Goal) (rest : List Token) :
    Option Step :=
  match rest with
  | [] => none
  | t :: _ =>
    if ends.contains t then some ⟨[.missing], [next], rest⟩
    else some ⟨[], [.node block unindented, next], rest⟩

/-- Passes over the comma in front of an item of a flow collection that is not the first, unless the
collection ends here. -/
def separator (first : Bool) (last : Token) (tokens : List Token) : Option (List Token) :=
  match tokens with
  | .flowEntry :: rest => if first then some tokens else some rest
  | t :: _ => if first || t == last then some tokens else none
  | [] => none

/-- Reaches a goal. -/
def step (handles : Handles) (goal : Goal) (tokens : List Token) : Option Step :=
  match goal with
  | .node block unindented => node handles block unindented tokens
  | .item =>
    match tokens with
    | .blockEntry :: rest => nodeUnless [.blockEntry, .blockEnd] true false .item rest
    | .blockEnd :: rest => some ⟨[.listEnd], [], rest⟩
    | _ => none
  | .unindentedItem =>
    match tokens with
    | .blockEntry :: rest =>
      nodeUnless [.blockEntry, .key, .value, .blockEnd] true false .unindentedItem rest
    | [] => none
    | _ => some ⟨[.listEnd], [], tokens⟩
  | .key =>
    match tokens with
    | .key :: rest => nodeUnless [.key, .value, .blockEnd] true true .value rest
    | .blockEnd :: rest => some ⟨[.tableEnd], [], rest⟩
    | _ => none
  | .value =>
    match tokens with
    | .value :: rest => nodeUnless [.key, .value, .blockEnd] true true .key rest
    | [] => none
    | _ => some ⟨[.missing], [.key], tokens⟩
  | .flowItem first => do
    match ← separator first .flowListEnd tokens with
    | .flowListEnd :: rest => some ⟨[.listEnd], [], rest⟩
    | .key :: rest => some ⟨[.tableStart {}], [.pairKey, .flowItem false], rest⟩
    | [] => none
    | rest => some ⟨[], [.node false false, .flowItem false], rest⟩
  | .pairKey =>
    match tokens with
    | .value :: rest | .flowEntry :: rest | .flowListEnd :: rest =>
      some ⟨[.missing], [.pairValue], rest⟩
    | [] => none
    | _ => some ⟨[], [.node false false, .pairValue], tokens⟩
  | .pairValue =>
    match tokens with
    | .value :: rest => nodeUnless [.flowEntry, .flowListEnd] false false .pairEnd rest
    | [] => none
    | _ => some ⟨[.missing], [.pairEnd], tokens⟩
  | .pairEnd => if tokens.isEmpty then none else some ⟨[.tableEnd], [], tokens⟩
  | .flowKey first => do
    match ← separator first .flowTableEnd tokens with
    | .flowTableEnd :: rest => some ⟨[.tableEnd], [], rest⟩
    | .key :: rest => nodeUnless [.value, .flowEntry, .flowTableEnd] false false .flowValue rest
    | [] => none
    | rest => some ⟨[], [.node false false, .noValue], rest⟩
  | .flowValue =>
    match tokens with
    | .value :: rest => nodeUnless [.flowEntry, .flowTableEnd] false false (.flowKey false) rest
    | [] => none
    | _ => some ⟨[.missing], [.flowKey false], tokens⟩
  | .noValue => if tokens.isEmpty then none else some ⟨[.missing], [.flowKey false], tokens⟩

/-- Reaches one goal after the other. The tokens left are none if a goal cannot be reached. -/
def reach (handles : Handles) : (rounds : Nat) → List Goal → List Token →
    List Event × Option (List Token)
  | 0, _, _ => ([], none)
  | _, [], tokens => ([], some tokens)
  | rounds + 1, goal :: goals, tokens =>
    match step handles goal tokens with
    | none => ([], none)
    | some s =>
      let (events, rest) := reach handles rounds (s.goals ++ goals) s.rest
      (s.events ++ events, rest)

/-- Reads the directives in front of a document. Neither the version nor a handle may be given
twice. -/
def directives : (versioned : Bool) → Handles → List Token → Option (Handles × List Token)
  | versioned, handles, .version major minor :: rest =>
    if versioned || major ≠ 1 || (minor ≠ 1 && minor ≠ 2) then none
    else directives true handles rest
  | versioned, handles, .tagHandle handle replacement :: rest =>
    if (handles.lookup handle).isSome then none
    else directives versioned (handles ++ [(handle, replacement)]) rest
  | _, handles, tokens => some (handles, tokens)

/-- The events of a stream of documents, of which only the first is read. -/
structure Stream where
  events : List Event
  /-- Whether there is one document and it is free of errors. -/
  complete : Bool
  /-- Whether there is no document. -/
  empty : Bool := false

/-- The first document from its goals on. -/
def Stream.ofGoals (handles : Handles) (goals : List Goal) (tokens : List Token) : Stream :=
  let (events, rest) := reach handles (8 * tokens.length + 8) goals tokens
  let complete :=
    match rest with
    | some rest => rest.dropWhile (· == .documentEnd) == [.streamEnd]
    | none => false
  { events, complete }

/-- The events of the first document. -/
def Stream.ofTokens (tokens : List Token) : Stream :=
  match tokens with
  | [] => { events := [], complete := false }
  | [.streamEnd] => { events := [], complete := true, empty := true }
  | .version .. :: _ | .tagHandle .. :: _ | .documentStart :: _ =>
    match directives false [] tokens with
    | some (handles, .documentStart :: rest) =>
      let handles := handles ++ defaultHandles
      match rest with
      | .version .. :: _ | .tagHandle .. :: _ | .documentStart :: _ | .documentEnd :: _
      | .streamEnd :: _ =>
        let s := Stream.ofGoals handles [] rest
        { s with events := .missing :: s.events }
      | _ => Stream.ofGoals handles [.node true false] rest
    | _ => { events := [], complete := false }
  | _ => Stream.ofGoals defaultHandles [.node true false] tokens

end Assay.Yaml
