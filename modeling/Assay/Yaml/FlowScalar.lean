import Assay.Number.Whole
import Assay.Yaml.Cursor

/-!
# Plain and quoted scalars

Plain scalars end at a comment, at `: `, at the marks of flow collections inside one, and at a line
that is not indented enough. Quoted scalars end at their quote; within double quotes a backslash
escapes. Line ends within a scalar are folded.
-/

namespace Assay.Yaml

/-- The characters of a plain scalar up to a gap or a mark. A colon directly in front of the mark of
a flow collection is an error. -/
def plainRun (inFlow : Bool) : List Char → Option (List Char)
  | [] => some []
  | c :: cs =>
    if isGap c then some []
    else if inFlow && c = ':' && cs.head?.any (fun d => d = '?' || isFlowMark d) then none
    else if (c = ':' && atGap cs) || (inFlow && isFlowMark c) then some []
    else (plainRun inFlow cs).map (c :: ·)

/-- Reads a plain scalar: its text, whether it ends behind a line end, and the place behind it. Lines
after the first start at `column` or further right, except in flow collections. -/
def plainScalar (inFlow : Bool) (column : Nat) : (rounds : Nat) → (text : List Char) → Gap →
    Cursor → Option (List Char × Bool × Cursor)
  | 0, _, _, _ => none
  | rounds + 1, text, gap, c =>
    if c.atDocumentMark || c.rest.head? = some '#' then some (text, gap.isMultiline, c)
    else do
      let run ← plainRun inFlow c.rest
      let c := c.skip run.length
      let (text, gap) := if run.isEmpty then (text, gap) else (text ++ gap.folded ++ run, .blanks [])
      if c.rest.isEmpty || !atGap c.rest then return (text, gap.isMultiline, c)
      let (gap, c) ← Gap.read column (c.rest.length + 1) (.blanks []) c
      if !inFlow && c.column < column then return (text, gap.isMultiline, c)
      plainScalar inFlow column rounds text gap c

/-- The character that a letter stands for behind a backslash. -/
def escapeOf? : Char → Option Char
  | '0' => some '\x00'
  | 'a' => some '\x07'
  | 'b' => some '\x08'
  | 't' => some '\t'
  | '\t' => some '\t'
  | 'n' => some '\n'
  | 'v' => some '\x0b'
  | 'f' => some '\x0c'
  | 'r' => some '\r'
  | 'e' => some '\x1b'
  | ' ' => some ' '
  | '"' => some '"'
  | '/' => some '/'
  | '\\' => some '\\'
  | 'N' => some '\u0085'
  | '_' => some '\u00a0'
  | 'L' => some '\u2028'
  | 'P' => some '\u2029'
  | _ => none

/-- The number of hexadecimal digits that follow a letter behind a backslash. -/
def escapeDigits? : Char → Option Nat
  | 'x' => some 2
  | 'u' => some 4
  | 'U' => some 8
  | _ => none

/-- The character that an escape stands for and the length of the escape, given what follows the
backslash. -/
def escape? (cs : List Char) : Option (Char × Nat) := do
  let c ← cs.head?
  match escapeDigits? c with
  | some n =>
    let digits := cs.tail.take n
    guard (digits.length = n)
    let code ← Number.natural? 16 digits
    if h : code.isValidChar then return (.ofNatAux code h, n + 2) else none
  | none => return (← escapeOf? c, 2)

/-- The characters of a quoted scalar up to a gap or its end. A line end behind a backslash is
passed over, and the result tells whether there was one. -/
def quotedRun (quote : Char) : (rounds : Nat) → (text : List Char) → Cursor →
    Option (List Char × Bool × Cursor)
  | 0, _, _ => none
  | rounds + 1, text, c =>
    match c.rest with
    | [] => some (text, false, c)
    | ch :: cs =>
      if isGap ch then some (text, false, c)
      else if quote = '\'' && ch = '\'' && cs.head? = some '\'' then
        quotedRun quote rounds (text ++ ['\'']) (c.skip 2)
      else if ch = quote then some (text, false, c)
      else if quote = '"' && ch = '\\' then
        match (c.skip 1).lineBreak? with
        | some (_, c) => some (text, true, c)
        | none => do
          let (ch, n) ← escape? cs
          quotedRun quote rounds (text ++ [ch]) (c.skip n)
      else quotedRun quote rounds (text ++ [ch]) (c.skip 1)

/-- Reads a quoted scalar behind its opening quote. -/
def quotedScalar (quote : Char) : (rounds : Nat) → (text : List Char) → Cursor →
    Option (List Char × Cursor)
  | 0, _, _ => none
  | rounds + 1, text, c =>
    if c.atDocumentMark || c.rest.isEmpty then none
    else do
      let size := c.rest.length + 1
      let (run, escaped, c) ← quotedRun quote size [] c
      let text := text ++ run
      if c.rest.head? = some quote then return (text, c.skip 1)
      let (gap, c) ← Gap.read 0 size (if escaped then .breaks [] [] else .blanks []) c
      quotedScalar quote rounds (text ++ gap.folded) c

end Assay.Yaml
