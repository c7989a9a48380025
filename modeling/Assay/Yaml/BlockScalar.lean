import Assay.Yaml.Cursor

/-!
# Block scalars

The text of a block scalar is given by the lines below its header that are indented. In the literal
style line ends stay as they are; in the folded style a line end between two lines that do not start
with a blank becomes a space. The header settles the indentation, if it is not that of the first
line, and what becomes of the line ends at the end.
-/

namespace Assay.Yaml

/-- What becomes of the line ends at the end of a block scalar. -/
inductive Chomping where
  | strip
  | clip
  | keep
  deriving DecidableEq, Repr

/-- The chomping that a mark asks for. -/
def Chomping.ofMark? : Char → Option Chomping
  | '+' => some .keep
  | '-' => some .strip
  | _ => none

/-- The marks of a header, in either order, and the place behind them. An indentation of zero is an
error; none given counts as zero here. -/
def blockHeader (c : Cursor) : Option (Chomping × Nat × Cursor) :=
  let digit? (ch : Char) : Option Nat := if ch.isDigit then some (ch.toNat - 48) else none
  let first := c.rest.head?
  let second := c.rest.tail.head?
  match first >>= Chomping.ofMark? with
  | some chomping =>
    match second >>= digit? with
    | some 0 => none
    | some n => some (chomping, n, c.skip 2)
    | none => some (chomping, 0, c.skip 1)
  | none =>
    match first >>= digit? with
    | some 0 => none
    | some n =>
      match second >>= Chomping.ofMark? with
      | some chomping => some (chomping, n, c.skip 2)
      | none => some (.clip, n, c.skip 1)
    | none => some (.clip, 0, c)

/-- Passes over indentation and empty lines: the largest column reached, the line ends passed, and
the place. With an indentation of zero, which is still to be settled, any number of spaces is
passed. A tab may not stand in the indentation. -/
def blockGap (indent : Nat) : (rounds : Nat) → (widest : Nat) → (feeds : List Char) → Cursor →
    Option (Nat × List Char × Cursor)
  | 0, _, _, _ => none
  | rounds + 1, widest, feeds, c =>
    let spaces := (c.rest.takeWhile (· = ' ')).length
    let c := c.skip (if indent = 0 then spaces else min spaces (indent - c.column))
    let widest := max widest c.column
    if (indent = 0 || c.column < indent) && c.rest.head? = some '\t' then none
    else
      match c.lineBreak? with
      | none => some (widest, feeds, c)
      | some (feed, c) => blockGap indent rounds widest (feeds ++ feed) c

/-- The lines of a block scalar read so far. -/
structure BlockLines where
  text : List Char := []
  /-- The end of the last line. -/
  feed : List Char := []
  /-- The ends of the empty lines behind it. -/
  feeds : List Char := []
  /-- Whether the last line starts with a blank. -/
  indented : Bool := false

/-- Adds what separates the lines so far from a further line, which may start with a blank. -/
def BlockLines.joined (folded startsBlank : Bool) (l : BlockLines) : List Char :=
  if folded && l.feed = ['\n'] && !l.indented && !startsBlank then
    l.text ++ (if l.feeds.isEmpty then [' '] else l.feeds)
  else l.text ++ l.feed ++ l.feeds

/-- Reads the lines with a given indentation. -/
def blockLines (folded : Bool) (indent : Nat) : (rounds : Nat) → BlockLines → Cursor →
    Option (BlockLines × Cursor)
  | 0, _, _ => none
  | rounds + 1, l, c =>
    if c.column ≠ indent || c.rest.isEmpty then some (l, c)
    else do
      let startsBlank := c.rest.head?.any isBlank
      let (line, c) := c.take (!isBreak ·)
      let (feed, c) := c.lineBreak?.getD ([], c)
      let (_, feeds, c) ← blockGap indent (c.rest.length + 1) 0 [] c
      blockLines folded indent rounds
        ⟨l.joined folded startsBlank ++ line, feed, feeds, startsBlank⟩ c

/-- Reads a block scalar behind its first mark, within a block that is indented by `outer`. -/
def blockScalar (folded : Bool) (outer : Int) (c : Cursor) : Option (List Char × Cursor) := do
  let size := c.rest.length + 1
  let (chomping, increment, c) ← blockHeader c
  let c ← c.lineRest?
  let given := if increment = 0 then 0 else (max outer 0).toNat + increment
  let (widest, feeds, c) ← blockGap given size 0 [] c
  let indent := if given = 0 then max widest (max (outer + 1).toNat 1) else given
  let (l, c) ← blockLines folded indent size ⟨[], [], feeds, false⟩ c
  let ending :=
    match chomping with
    | .strip => []
    | .clip => l.feed
    | .keep => l.feed ++ l.feeds
  return (l.text ++ ending, c)

end Assay.Yaml
