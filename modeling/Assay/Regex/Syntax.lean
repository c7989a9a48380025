import Assay.Regex.Class
import Assay.Regex.Program

/-!
# Regular expressions

The syntax has groups, named groups, flags, alternation, repetition, classes and looks, but neither
look-around nor back-references. The reader keeps the groups that are open on a stack; each round
reads at least one character. Expressions that nest too deeply or whose automaton would be too
large are refused like ill-formed ones.
-/

namespace Assay.Regex

/-- The elements of a sequence read so far, the last one first, each with its depth. Flags that
stand alone count as an element without a pattern. -/
abbrev Sequence := List (Option Pattern × Nat)

/-- A sequence as one pattern. -/
def Sequence.close (s : Sequence) : Pattern × Nat :=
  let patterns := s.filterMap (·.1)
  let depth := (s.map (·.2)).foldl max 0
  (patterns.foldl (fun rest p => match rest with | .empty => p | _ => .seq p rest) .empty,
    if 1 < s.length then depth + 1 else depth)

/-- The alternatives of a group read so far: those that are complete, the last one first, and the
current one. -/
structure Branches where
  closed : List (Pattern × Nat) := []
  current : Sequence := []

namespace Branches

/-- Adds an element to the current alternative. -/
def push (b : Branches) (p : Option Pattern) (depth : Nat) : Branches :=
  { b with current := (p, depth) :: b.current }

/-- Begins the next alternative. -/
def next (b : Branches) : Branches :=
  ⟨b.current.close :: b.closed, []⟩

/-- The alternatives as one pattern. -/
def close (b : Branches) : Pattern × Nat :=
  let (final, depth) := b.current.close
  if b.closed.isEmpty then (final, depth)
  else
    (b.closed.foldl (fun rest p => .alt p.1 rest) final,
      (b.closed.map (·.2)).foldl max depth + 1)

/-- Takes the last element for repetition; there must be one, and flags are none. -/
def pop? (b : Branches) : Option ((Pattern × Nat) × Branches) :=
  match b.current with
  | (some p, depth) :: rest => some ((p, depth), { b with current := rest })
  | _ => none

end Branches

/-- What a parenthesis opens: a group, whose flags and name are settled, or a setting of flags. -/
inductive Opening where
  | group (flags : Flags) (name : Option String)
  | flags (flags : Flags)

/-- Flags up to `:` or `)`. No flag may be given twice, and a hyphen must clear at least one. -/
def readFlags : (on : Bool) → (dangling : Bool) → (seen : List Char) → Flags → List Char →
    Option (Flags × List Char × List Char)
  | _, _, _, _, [] => none
  | on, dangling, seen, f, c :: cs =>
    if c = ':' ∨ c = ')' then if dangling then none else some (f, seen, c :: cs)
    else if seen.contains c then none
    else if c = '-' then readFlags false true (c :: seen) f cs
    else do
      let f ← f.assign on c
      readFlags on false (c :: seen) f cs

/-- A character that a group's name may hold, at its start or later. -/
def isNameChar (first : Bool) (c : Char) : Bool :=
  c = '_' || Unicode.alphabetic.contains c.toNat ||
    (!first && (c = '.' || c = '[' || c = ']' || Unicode.numeric.contains c.toNat))

/-- The name of a group up to its closing angle bracket. -/
def groupName? (cs : List Char) : Option (String × List Char) := do
  let (name, rest) ← Text.cut (· = '>') cs
  match name with
  | [] => none
  | c :: more =>
    guard (isNameChar true c && more.all (isNameChar false))
    return (String.ofList name, rest)

/-- Reads what follows an opening parenthesis. -/
def opening (f : Flags) (cs : List Char) : Option (Opening × List Char) :=
  match f.skip cs with
  | '?' :: '=' :: _ | '?' :: '!' :: _ => none
  | '?' :: '<' :: '=' :: _ | '?' :: '<' :: '!' :: _ => none
  | '?' :: 'P' :: '<' :: rest | '?' :: '<' :: rest =>
    (groupName? rest).map fun (name, rest) => (.group f (some name), rest)
  | '?' :: rest => do
    let (inner, seen, rest) ← readFlags true false [] f rest
    match rest with
    | ')' :: rest => if seen.isEmpty then none else some (.flags inner, rest)
    | _ :: rest => some (.group inner none, rest)
    | [] => none
  | rest => some (.group f none, rest)

/-- A count in a repetition, with blanks around it; none if there is no digit. -/
def readCount (f : Flags) (cs : List Char) : Option (Option Nat × List Char) :=
  let cs := cs.dropWhile Text.isBlank
  let (digits, rest) := cs.span fun c => c.isDigit || (f.verbose && Text.isBlank c)
  let digits := digits.filter Char.isDigit
  let rest := rest.dropWhile Text.isBlank
  if digits.isEmpty then some (none, rest)
  else
    match Number.natural? 10 digits with
    | some n => if n < Number.words32 then some (some n, f.skip rest) else none
    | none => none

/-- The bounds of a counted repetition, read behind its opening brace. -/
def readBounds (f : Flags) (cs : List Char) : Option (Nat × Option Nat × List Char) := do
  let (least, rest) ← readCount f (f.skip cs)
  match rest with
  | '\x7d' :: rest => return (← least, least, rest)
  | ',' :: rest =>
    match f.skip rest with
    | '\x7d' :: rest => return (← least, none, rest)
    | rest =>
      let low ← least
      let (most, rest) ← readCount f rest
      let high ← most
      let rest ← Text.dropPrefix? ['\x7d'] rest
      guard (low ≤ high)
      return (low, some high, rest)
  | _ => none

/-- Drops the mark of a repetition that prefers few rounds. -/
def dropLazy (cs : List Char) : List Char :=
  match cs with
  | '?' :: rest => rest
  | _ => cs

/-- What stands at the front of the rest of an expression. -/
inductive Item where
  | opening (o : Opening)
  | closing
  | bar
  /-- Something that matches by itself, and how deep it nests. -/
  | piece (p : Pattern) (depth : Nat)
  /-- A repetition of the piece in front of it. -/
  | repetition (least : Nat) (most : Option Nat)

/-- The item of a look at what is around a position. -/
def lookItem (l : Look) (rest : List Char) : Option (Item × List Char) :=
  some (.piece (.look l) 0, rest)

/-- The item of a single element. -/
def elementItem (f : Flags) (e : Element) (rest : List Char) : Option (Item × List Char) :=
  (e.pattern? f).map fun p => (.piece p 0, rest)

/-- Reads the item that starts with a character, and gives what follows it. -/
def item (f : Flags) (c : Char) (cs : List Char) : Option (Item × List Char) :=
  if c = '(' then (opening f cs).map fun (o, rest) => (.opening o, rest)
  else if c = ')' then some (.closing, cs)
  else if c = '|' then some (.bar, cs)
  else if c = '[' then
    (bracketClass f ('[' :: cs)).map fun (s, depth, rest) => (.piece (.chars s) depth, rest)
  else if c = '?' then some (.repetition 0 (some 1), dropLazy cs)
  else if c = '*' then some (.repetition 0 none, dropLazy cs)
  else if c = '+' then some (.repetition 1 none, dropLazy cs)
  else if c = '\x7b' then
    (readBounds f cs).map fun (least, most, rest) =>
      (.repetition least most, dropLazy (f.skip rest))
  else if c = '\\' then (escape f cs).bind fun (e, rest) => elementItem f e rest
  else if c = '.' then elementItem f .dot cs
  else if c = '^' then
    lookItem (if !f.multiLine then .textStart else if f.crlf then .crlfStart else .lineStart) cs
  else if c = '$' then
    lookItem (if !f.multiLine then .textEnd else if f.crlf then .crlfEnd else .lineEnd) cs
  else elementItem f (.literal c false) cs

/-- Reads the rest of an expression with the groups around it on a stack. -/
def readRest : (rounds : Nat) → (names : List String) → List (Flags × Branches) → Flags →
    Branches → List Char → Option (Pattern × Nat)
  | 0, _, _, _, _, _ => none
  | rounds + 1, names, stack, f, b, cs =>
    match f.skip cs with
    | [] => if stack.isEmpty then some b.close else none
    | c :: cs => do
      let (next, rest) ← item f c cs
      match next with
      | .opening (.flags inner) => readRest rounds names stack inner (b.push none 0) rest
      | .opening (.group inner name) =>
        guard (name.all fun n => !names.contains n)
        readRest rounds (name.toList ++ names) ((f, b) :: stack) inner {} rest
      | .closing =>
        match stack with
        | [] => none
        | (outer, around) :: stack =>
          let (p, depth) := b.close
          readRest rounds names stack outer (around.push (some p) (depth + 1)) rest
      | .bar => readRest rounds names stack f b.next rest
      | .piece p depth => readRest rounds names stack f (b.push (some p) depth) rest
      | .repetition least most =>
        let ((p, depth), b) ← b.pop?
        readRest rounds names stack f (b.push (some (.rep p least most)) (depth + 1)) rest

/-- How deep an expression may nest. -/
def depthLimit : Nat := 250

/-- The pattern that an expression stands for. -/
def pattern? (cs : List Char) : Option Pattern := do
  let (p, depth) ← readRest (cs.length + 1) [] [] {} {} cs
  guard (depth ≤ depthLimit && p.weight ≤ Pattern.weightLimit)
  return p

/-- The program of an expression, if it is well formed. -/
def compile? (expression : String) : Option Program :=
  (pattern? expression.toList).map .ofPattern

/-- An engine for regular expressions. -/
structure Engine where
  /-- Whether texts have a match of an expression, if it is well formed. -/
  matcher? : (expression : String) → Option (String → Bool)

/-- The engine that runs programs. -/
def Engine.standard : Engine where
  matcher? expression := (compile? expression).map fun program text => program.isMatch text.toList

end Assay.Regex
