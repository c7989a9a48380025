import Assay.Yaml.BlockScalar
import Assay.Yaml.FlowScalar
import Assay.Yaml.Property

/-!
# Scanning YAML

The scanner reads one token after the other. A key of a table is recognised only at the colon behind
it, so wherever a key may start the scanner remembers the place, and at a colon the tokens that
announce the key are put there. Until it is settled whether a token starts a key, that token and
those behind it are not delivered.
-/

namespace Assay.Yaml

/-- A place where a key may start. -/
structure KeyPlace where
  /-- The number of tokens in front of it. -/
  tokens : Nat
  /-- Whether there must be a key, since nothing else may stand there. -/
  required : Bool
  index : Nat
  line : Nat
  column : Nat

/-- The state of the scanner. -/
structure Scanner where
  cursor : Cursor
  /-- The tokens read so far, the latest first. -/
  tokens : List Token := []
  count : Nat := 0
  /-- The place of a possible key in each open flow collection, the innermost first, and at last in
  the block around them. -/
  keys : List (Option KeyPlace) := [none]
  /-- The column of the innermost block collection. -/
  indent : Int := -1
  /-- The columns of the block collections around it. -/
  outer : List Int := []
  /-- Whether a key may start here. -/
  keyAllowed : Bool := true
  /-- Whether the end of the text has been read. -/
  ended : Bool := false

namespace Scanner

/-- Whether the scanner is within a flow collection. -/
def inFlow (s : Scanner) : Bool :=
  1 < s.keys.length

/-- Adds a token. -/
def add (t : Token) (s : Scanner) : Scanner :=
  { s with tokens := t :: s.tokens, count := s.count + 1 }

/-- Puts a token behind the first `n` tokens. -/
def insert (n : Nat) (t : Token) (s : Scanner) : Scanner :=
  let behind := s.count - n
  { s with tokens := s.tokens.take behind ++ t :: s.tokens.drop behind, count := s.count + 1 }

/-- Adds a token and passes over `n` characters. -/
def mark (t : Token) (n : Nat) (s : Scanner) : Scanner :=
  s.add t |> fun s => { s with cursor := s.cursor.skip n }

/-- Adds a scalar, an anchor or the like, which ends at a place. -/
def finish (t : Token) (c : Cursor) (s : Scanner) : Scanner :=
  { s.add t with cursor := c }

/-- Passes over blanks, comments and line ends up to the next token. Behind a line end a key may
start. Tabs may not stand where a key may start. -/
def advance : (rounds : Nat) → Scanner → Scanner
  | 0, s => s
  | rounds + 1, s =>
    let c := s.cursor
    let c := if c.column = 0 && c.rest.head? = some '\uFEFF' then c.skip 1 else c
    let c := c.skipWhile fun ch => ch = ' ' || (ch = '\t' && (s.inFlow || !s.keyAllowed))
    let c := if c.rest.head? = some '#' then c.skipWhile (!isBreak ·) else c
    match c.lineBreak? with
    | none => { s with cursor := c }
    | some (_, c) => advance rounds { s with cursor := c, keyAllowed := s.keyAllowed || !s.inFlow }

/-- Whether a place lies on an earlier line, or too far back for a key to start there. -/
def isStale (c : Cursor) (k : KeyPlace) : Bool :=
  k.line < c.line || k.index + 1024 < c.index

/-- Gives up the possible keys that have become stale. A required one may not. -/
def dropStale (s : Scanner) : Option Scanner := do
  let keys ← s.keys.mapM fun key =>
    match key with
    | some k =>
      if !isStale s.cursor k then some (some k) else if k.required then none else some none
    | none => some none
  return { s with keys }

/-- Gives up the possible key of the innermost collection. A required one may not be given up. -/
def dropKey (s : Scanner) : Option Scanner :=
  match s.keys with
  | some k :: keys => if k.required then none else some { s with keys := none :: keys }
  | _ => some s

/-- Remembers that a key may start here, if that is so. -/
def noteKey (s : Scanner) : Option Scanner := do
  if !s.keyAllowed then return s
  let c := s.cursor
  let required := !s.inFlow && s.indent == (c.column : Int)
  let s ← s.dropKey
  return { s with keys := some ⟨s.count, required, c.index, c.line, c.column⟩ :: s.keys.tail }

/-- Closes the block collections to the right of a column. -/
def closeBlocks (column : Int) (s : Scanner) : Scanner :=
  if s.inFlow then s else go s.outer s
where
  /-- Closes the innermost block if it lies to the right of the column, then those around it. -/
  go : List Int → Scanner → Scanner
    | [], s => s
    | around :: outer, s =>
      if column < s.indent then go outer { s.add .blockEnd with indent := around, outer }
      else s

/-- Opens a block collection at a column to the right of the innermost one. Its start is put behind
the first `place` tokens, or to the end. -/
def openBlock (column : Nat) (place : Option Nat) (start : Token) (s : Scanner) : Scanner :=
  if s.inFlow || (column : Int) ≤ s.indent then s
  else
    let s := { s with indent := column, outer := s.indent :: s.outer }
    match place with
    | some n => s.insert n start
    | none => s.add start

/-- Reads the end of the text. -/
def endOfText (s : Scanner) : Option Scanner := do
  let c := s.cursor
  let c := if c.column = 0 then c else { c with line := c.line + 1, column := 0 }
  let s ← (closeBlocks (-1) { s with cursor := c }).dropKey
  return { s.add .streamEnd with keyAllowed := false, ended := true }

/-- Reads the mark of a document's start or end. -/
def documentMark (t : Token) (s : Scanner) : Option Scanner := do
  let s ← (s.closeBlocks (-1)).dropKey
  return ({ s with keyAllowed := false }).mark t 3

/-- Reads a directive at its percent sign. -/
def directive (s : Scanner) : Option Scanner := do
  let s ← (s.closeBlocks (-1)).dropKey
  let (t, c) ← Yaml.directive (s.cursor.skip 1)
  return ({ s with keyAllowed := false }).finish t c

/-- Reads the start of a flow collection, which may be a key itself. -/
def flowStart (t : Token) (s : Scanner) : Option Scanner := do
  let s ← s.noteKey
  return ({ s with keys := none :: s.keys, keyAllowed := true }).mark t 1

/-- Reads the end of a flow collection. -/
def flowEnd (t : Token) (s : Scanner) : Option Scanner := do
  let s ← s.dropKey
  let keys := if s.inFlow then s.keys.tail else s.keys
  return ({ s with keys, keyAllowed := false }).mark t 1

/-- Reads the comma of a flow collection. -/
def flowEntry (s : Scanner) : Option Scanner := do
  let s ← s.dropKey
  return ({ s with keyAllowed := true }).mark .flowEntry 1

/-- Reads the dash of a list, which may open the list. -/
def blockEntry (s : Scanner) : Option Scanner := do
  guard (s.inFlow || s.keyAllowed)
  let s ← (s.openBlock s.cursor.column none .blockListStart).dropKey
  return ({ s with keyAllowed := true }).mark .blockEntry 1

/-- Reads the question mark in front of a key, which may open the table. -/
def keyMark (s : Scanner) : Option Scanner := do
  guard (s.inFlow || s.keyAllowed)
  let s ← (s.openBlock s.cursor.column none .blockTableStart).dropKey
  return ({ s with keyAllowed := !s.inFlow }).mark .key 1

/-- Reads the colon in front of a value. Where a key was possible there has been one, and it is
announced in front of its first token; that may open the table. -/
def valueMark (s : Scanner) : Option Scanner := do
  match s.keys with
  | some k :: keys =>
    let s := (s.insert k.tokens .key).openBlock k.column (some k.tokens) .blockTableStart
    return ({ s with keys := none :: keys, keyAllowed := false }).mark .value 1
  | _ =>
    guard (s.inFlow || s.keyAllowed)
    let s := s.openBlock s.cursor.column none .blockTableStart
    return ({ s with keyAllowed := !s.inFlow }).mark .value 1

/-- Reads the name of an anchor or an alias at its mark. -/
def name (t : String → Token) (s : Scanner) : Option Scanner := do
  let s ← s.noteKey
  let (name, c) ← anchorName (s.cursor.skip 1)
  return ({ s with keyAllowed := false }).finish (t name) c

/-- Reads a tag. -/
def tag (s : Scanner) : Option Scanner := do
  let s ← s.noteKey
  let (t, c) ← Yaml.tag s.inFlow s.cursor
  return ({ s with keyAllowed := false }).finish (.tag t) c

/-- Reads a block scalar at its first mark. -/
def blockScalar (style : Style) (s : Scanner) : Option Scanner := do
  let s ← s.dropKey
  let (text, c) ← Yaml.blockScalar (style == .folded) s.indent (s.cursor.skip 1)
  return ({ s with keyAllowed := true }).finish (.scalar style (String.ofList text)) c

/-- Reads a quoted scalar at its quote. -/
def quotedScalar (style : Style) (quote : Char) (s : Scanner) : Option Scanner := do
  let s ← s.noteKey
  let (text, c) ← Yaml.quotedScalar quote (s.cursor.rest.length + 1) [] (s.cursor.skip 1)
  return ({ s with keyAllowed := false }).finish (.scalar style (String.ofList text)) c

/-- Reads a plain scalar. If it ends behind a line end a key may start there. -/
def plainScalar (s : Scanner) : Option Scanner := do
  let s ← s.noteKey
  let (text, multiline, c) ← Yaml.plainScalar s.inFlow (s.indent + 1).toNat
    (s.cursor.rest.length + 1) [] (.blanks []) s.cursor
  return ({ s with keyAllowed := multiline }).finish (.scalar .plain (String.ofList text)) c

/-- Whether a plain scalar may start with a character, given what follows it. -/
def startsPlain (inFlow : Bool) (c : Char) (cs : List Char) : Bool :=
  !(isGap c || "-?:,[]\x7b\x7d#&*!|>'\"%@\x60".toList.contains c) ||
    (c = '-' && !cs.head?.any isBlank) ||
    (!inFlow && (c = '?' || c = ':') && !atGap cs)

/-- Reads the next token at its first character. -/
def token (s : Scanner) : Option Scanner :=
  match s.cursor.rest with
  | [] => s.endOfText
  | c :: cs =>
    if s.cursor.column = 0 && c = '%' then s.directive
    else if s.cursor.atDocumentMark then
      s.documentMark (if c = '-' then .documentStart else .documentEnd)
    else if c = '[' then s.flowStart .flowListStart
    else if c = '\x7b' then s.flowStart .flowTableStart
    else if c = ']' then s.flowEnd .flowListEnd
    else if c = '\x7d' then s.flowEnd .flowTableEnd
    else if c = ',' then s.flowEntry
    else if c = '-' && atGap cs then s.blockEntry
    else if c = '?' && (s.inFlow || atGap cs) then s.keyMark
    else if c = ':' && (s.inFlow || atGap cs) then s.valueMark
    else if c = '*' then s.name .alias
    else if c = '&' then s.name .anchor
    else if c = '!' then s.tag
    else if c = '|' && !s.inFlow then s.blockScalar .literal
    else if c = '>' && !s.inFlow then s.blockScalar .folded
    else if c = '\'' then s.quotedScalar .singleQuoted '\''
    else if c = '"' then s.quotedScalar .doubleQuoted '"'
    else if startsPlain s.inFlow c cs then s.plainScalar
    else none

/-- Reads the next token. -/
def next (s : Scanner) : Option Scanner := do
  let s ← (s.advance (s.cursor.rest.length + 1)).dropStale
  (s.closeBlocks s.cursor.column).token

/-- The number of tokens in front of the first possible key. -/
def delivered (s : Scanner) : Nat :=
  s.keys.foldl (fun n key => match key with | some k => min n k.tokens | none => n) s.count

/-- The tokens delivered until the text ends, or until an error. -/
def run : (rounds : Nat) → (delivered : Nat) → Scanner → List Token
  | 0, _, _ => []
  | rounds + 1, n, s =>
    match s.next with
    | none => s.tokens.reverse.take n
    | some t =>
      match t.dropStale with
      | none => t.tokens.reverse.take n
      | some t => if t.ended then t.tokens.reverse else run rounds t.delivered t

end Scanner

/-- A character that may stand in a text. -/
def isPrintable (c : Char) : Bool :=
  let n := c.toNat
  n = 0x09 || n = 0x0A || n = 0x0D || (0x20 ≤ n && n ≤ 0x7E) || n = 0x85 ||
    (0xA0 ≤ n && n ≤ 0xFFFD) || 0x10000 ≤ n

/-- The tokens of a text. A byte order mark at its start is passed over. -/
def tokens (cs : List Char) : List Token :=
  if cs.all isPrintable then
    let cs := if cs.head? = some '\uFEFF' then cs.tail else cs
    Scanner.run (cs.length + 2) 0 { cursor := { rest := cs } }
  else []

end Assay.Yaml
