/-!
# Places in a YAML text

A cursor is a place in a text: what is left of it, and how far the place is from the start of the
text and of its line. The scanner needs the column for indentation, and the other two to limit how
far a key may reach.
-/

namespace Assay.Yaml

/-- A space or a tab. -/
def isBlank (c : Char) : Bool :=
  c = ' ' || c = '\t'

/-- A character that ends a line. -/
def isBreak (c : Char) : Bool :=
  c = '\n' || c = '\r' || c = '\u0085' || c = '\u2028' || c = '\u2029'

/-- A character that separates words. -/
def isGap (c : Char) : Bool :=
  isBlank c || isBreak c

/-- A character of names and handles. -/
def isNameChar (c : Char) : Bool :=
  c.isAlphanum || c = '-' || c = '_'

/-- A character that delimits flow collections. -/
def isFlowMark (c : Char) : Bool :=
  c = ',' || c = '[' || c = ']' || c = '\x7b' || c = '\x7d'

/-- Whether a word ends here: at a blank, at a break or at the end of the text. -/
def atGap : List Char → Bool
  | [] => true
  | c :: _ => isGap c

/-- Whether a line ends here. -/
def atLineEnd : List Char → Bool
  | [] => true
  | c :: _ => isBreak c

/-- Whether the mark of a document's start or end stands here. -/
def atDocumentMark : List Char → Bool
  | '-' :: '-' :: '-' :: rest => atGap rest
  | '.' :: '.' :: '.' :: rest => atGap rest
  | _ => false

/-- A place in a text. -/
structure Cursor where
  /-- What is left of the text. -/
  rest : List Char
  /-- The characters in front of the place. -/
  index : Nat := 0
  /-- The lines in front of the place. -/
  line : Nat := 0
  /-- The characters in front of the place on its line. -/
  column : Nat := 0
  deriving Inhabited

namespace Cursor

/-- Passes over characters that do not end a line. -/
def skip (n : Nat) (c : Cursor) : Cursor :=
  { c with rest := c.rest.drop n, index := c.index + n, column := c.column + n }

/-- Passes over the characters of a class, which holds no line ends. -/
def skipWhile (p : Char → Bool) (c : Cursor) : Cursor :=
  c.skip (c.rest.takeWhile p).length

/-- The characters of a class at the place, and the place behind them. -/
def take (p : Char → Bool) (c : Cursor) : List Char × Cursor :=
  let run := c.rest.takeWhile p
  (run, c.skip run.length)

/-- The place `n` characters further on, at the start of a line. -/
def nextLine (n : Nat) (c : Cursor) : Cursor :=
  ⟨c.rest.drop n, c.index + n, c.line + 1, 0⟩

/-- Passes over the end of a line, if one is here. The usual ends of lines become a line feed. -/
def lineBreak? (c : Cursor) : Option (List Char × Cursor) :=
  match c.rest with
  | '\r' :: '\n' :: _ => some (['\n'], c.nextLine 2)
  | ch :: _ =>
    if ch = '\u2028' ∨ ch = '\u2029' then some ([ch], c.nextLine 1)
    else if isBreak ch then some (['\n'], c.nextLine 1)
    else none
  | [] => none

/-- Whether the mark of a document's start or end stands here, at the start of a line. -/
def atDocumentMark (c : Cursor) : Bool :=
  c.column = 0 && Yaml.atDocumentMark c.rest

/-- Passes over blanks and a comment up to the end of the line, and over that end. There must be
nothing else. -/
def lineRest? (c : Cursor) : Option Cursor :=
  let c := c.skipWhile isBlank
  let c := if c.rest.head? = some '#' then c.skipWhile (!isBreak ·) else c
  if atLineEnd c.rest then some ((c.lineBreak?.map Prod.snd).getD c) else none

end Cursor

/-- What separates two words of a scalar: blanks on a line, or one line end and those that follow
it. Blanks around line ends do not count. -/
inductive Gap where
  | blanks (text : List Char)
  | breaks (first more : List Char)
  deriving Inhabited

namespace Gap

/-- Whether the gap reaches over a line end. -/
def isMultiline : Gap → Bool
  | .blanks _ => false
  | .breaks .. => true

/-- What a gap contributes to the scalar: a single line feed becomes a space, and of several the
first is dropped. -/
def folded : Gap → List Char
  | .blanks text => text
  | .breaks ['\n'] [] => [' ']
  | .breaks ['\n'] more => more
  | .breaks first more => first ++ more

/-- Passes over blanks and line ends. There may be no tab to the left of a column on a new line. -/
def read (column : Nat) : (rounds : Nat) → Gap → Cursor → Option (Gap × Cursor)
  | 0, _, _ => none
  | rounds + 1, gap, c =>
    match c.rest with
    | [] => some (gap, c)
    | ch :: _ =>
      if isBlank ch then
        match gap with
        | .blanks text => read column rounds (.blanks (text ++ [ch])) (c.skip 1)
        | .breaks .. =>
          if ch = '\t' && c.column < column then none else read column rounds gap (c.skip 1)
      else
        match c.lineBreak?, gap with
        | none, _ => some (gap, c)
        | some (feed, c), .blanks _ => read column rounds (.breaks feed []) c
        | some (feed, c), .breaks first more => read column rounds (.breaks first (more ++ feed)) c

end Gap

end Assay.Yaml
