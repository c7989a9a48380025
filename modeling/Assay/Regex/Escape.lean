import Assay.Number.Whole
import Assay.Regex.Pattern
import Assay.Text.Blank
import Assay.Text.Cut
import Assay.Unicode.Fold
import Assay.Unicode.Property

/-!
# Flags and single elements of a regular expression

Flags settle what an element means: a letter may stand for its case variants, a class for a set of
Unicode or of ASCII characters. An element is a literal, a class, the dot or a look. Without the
flag `u` a class must stay within ASCII, since a match may not cut a character in two.
-/

namespace Assay.Regex

open Unicode (CodeSet)

/-- The flags in force at a place of a regular expression. -/
structure Flags where
  caseless : Bool := false
  multiLine : Bool := false
  dotAll : Bool := false
  swapGreed : Bool := false
  unicode : Bool := true
  crlf : Bool := false
  verbose : Bool := false
  deriving Inhabited

namespace Flags

/-- The flags with one of them set or cleared. -/
def assign (f : Flags) (on : Bool) : Char → Option Flags
  | 'i' => some { f with caseless := on }
  | 'm' => some { f with multiLine := on }
  | 's' => some { f with dotAll := on }
  | 'U' => some { f with swapGreed := on }
  | 'u' => some { f with unicode := on }
  | 'R' => some { f with crlf := on }
  | 'x' => some { f with verbose := on }
  | _ => none

/-- The largest code point of a class before its final check: with `u` the last one of all, without
it the last byte. -/
def last (f : Flags) : Nat :=
  if f.unicode then Unicode.lastCode else 255

/-- A set with the case variants of its members, if case does not count. -/
def fold (f : Flags) (s : CodeSet) : CodeSet :=
  if !f.caseless then s
  else if f.unicode then Unicode.foldClosure s
  else Unicode.asciiFoldClosure s

/-- The complement of a set, if asked for. -/
def negateIf (f : Flags) (negated : Bool) (s : CodeSet) : CodeSet :=
  if negated then s.complement f.last else s

/-- Skips blanks and comments, which count for nothing when the flag `x` is on. -/
def skip (f : Flags) (cs : List Char) : List Char :=
  if f.verbose then blankOrComment false cs else cs
where
  /-- Skips blanks, and comments from `#` to the end of the line. -/
  blankOrComment : (inComment : Bool) → List Char → List Char
    | _, [] => []
    | true, c :: cs => blankOrComment (c != '\n') cs
    | false, c :: cs =>
      if Text.isBlank c then blankOrComment false cs
      else if c = '#' then blankOrComment true cs
      else c :: cs

/-- What follows the first character, with blanks and comments skipped. -/
def advance (f : Flags) (cs : List Char) : List Char :=
  f.skip (cs.drop 1)

end Flags

/-- One element. A literal remembers whether it was written as a byte, `\xNN`. -/
inductive Element where
  | literal (c : Char) (isByte : Bool)
  | set (s : CodeSet)
  | dot
  | look (l : Look)
  deriving Inhabited

/-- Characters with a meaning of their own, which lose it behind a backslash. -/
def isMeta (c : Char) : Bool :=
  "\\.+*?()|[]\x7b\x7d^$#&-~".toList.contains c

/-- Characters that may be escaped although they mean themselves anyway. -/
def isEscapable (c : Char) : Bool :=
  isMeta c || (c.toNat < 128 && !c.isAlphanum && c != '<' && c != '>')

/-- The character with a code point given in hexadecimal digits. -/
def charOfHex? (digits : List Char) : Option Char := do
  let n ← Number.natural? 16 digits
  if h : n.isValidChar then some (Char.ofNatAux n h) else none

/-- Reads exactly `n` hexadecimal digits. -/
def hexDigits (f : Flags) : Nat → List Char → Option (List Char × List Char)
  | 0, cs => some ([], cs)
  | _ + 1, [] => none
  | n + 1, c :: cs => do
    guard (Number.digitValue? c).isSome
    let (ds, rest) ← hexDigits f n (f.skip cs)
    return (c :: ds, rest)

/-- Reads characters up to a closing brace, which is dropped. -/
def braced (f : Flags) (keep : Char → Bool) : List Char → Option (List Char × List Char)
  | [] => none
  | c :: cs =>
    if c = '\x7d' then some ([], cs)
    else if keep c then do
      let (front, rest) ← braced f keep cs
      return (c :: front, rest)
    else if f.verbose && Text.isBlank c then braced f keep cs
    else none

/-- The literal written `\xNN`, `\uNNNN`, `\UNNNNNNNN` or with the digits in braces. -/
def hexLiteral (f : Flags) (kind : Char) (cs : List Char) : Option (Element × List Char) := do
  let width := if kind = 'x' then 2 else if kind = 'u' then 4 else 8
  match f.skip cs with
  | '\x7b' :: rest =>
    let (digits, rest) ← braced f (fun c => (Number.digitValue? c).isSome) rest
    let c ← charOfHex? digits
    return (.literal c false, f.skip rest)
  | rest =>
    let (digits, rest) ← hexDigits f width rest
    let c ← charOfHex? digits
    return (.literal c (kind = 'x'), rest)

/-- The set that the text in the braces of `\p` names. -/
def namedSet? (name : List Char) : Option (CodeSet × Bool) :=
  match Text.cut (· = '!') name with
  | some (property, '=' :: value) => (Unicode.valued? property value).map (·, true)
  | _ =>
    match (Text.cut (· = ':') name) <|> (Text.cut (· = '=') name) with
    | some (property, value) => (Unicode.valued? property value).map (·, false)
    | none => (Unicode.property? name).map (·, false)

/-- The class written `\pL` or with a name in braces, negated for `\P`. -/
def propertySet (f : Flags) (negated : Bool) (cs : List Char) :
    Option (Element × List Char) := do
  let finish (found : CodeSet × Bool) : CodeSet := f.negateIf (negated != found.2) (f.fold found.1)
  guard f.unicode
  match f.skip cs with
  | [] => none
  | '\x7b' :: rest =>
    let (name, rest) ← braced { f with verbose := false } (fun _ => true) rest
    let name := if f.verbose then name.filter fun c => !Text.isBlank c else name
    return (.set (finish (← namedSet? name)), rest)
  | c :: rest =>
    guard (c != '\\')
    return (.set (finish ((← Unicode.property? [c]), false)), f.skip rest)

/-- The class written with one of the letters `d`, `s`, `w`, negated for a capital. -/
def letterSet (f : Flags) (c : Char) : CodeSet :=
  let s : CodeSet :=
    match c.toLower with
    | 'd' => if f.unicode then Unicode.decimalDigit else .ofRanges [(48, 57)]
    | 's' => if f.unicode then Unicode.whiteSpace else .ofRanges [(9, 13), (32, 32)]
    | _ =>
      if f.unicode then Unicode.wordCharacter
      else .ofRanges [(48, 57), (65, 90), (95, 95), (97, 122)]
  f.negateIf c.isUpper s

/-- What a brace behind `\b` begins: a kind of word boundary, or a repetition if no letter or hyphen
follows. -/
def boundaryKind (f : Flags) (cs : List Char) : Option (Look × List Char) :=
  let isNameChar (c : Char) : Bool := c.isAlpha || c = '-'
  match cs with
  | '\x7b' :: inside =>
    match f.skip inside with
    | [] => none
    | c :: _ =>
      if !isNameChar c then some (.wordBoundary f.unicode, cs)
      else do
        let (name, rest) ← braced f isNameChar (f.skip inside)
        let kind ←
          match String.ofList name with
          | "start" => some (Look.wordStart f.unicode)
          | "end" => some (Look.wordEnd f.unicode)
          | "start-half" => some (Look.wordStartHalf f.unicode)
          | "end-half" => some (Look.wordEndHalf f.unicode)
          | _ => none
        return (kind, rest)
  | _ => some (.wordBoundary f.unicode, cs)

/-- The element behind a backslash. -/
def escape (f : Flags) : List Char → Option (Element × List Char)
  | [] => none
  | c :: cs =>
    if c.isDigit then none
    else if c = 'x' ∨ c = 'u' ∨ c = 'U' then hexLiteral f c cs
    else if c = 'p' ∨ c = 'P' then propertySet f (c = 'P') cs
    else if "dswDSW".toList.contains c then some (.set (letterSet f c), cs)
    else if isEscapable c then some (.literal c false, cs)
    else
      match c with
      | 'a' => some (.literal '\x07' false, cs)
      | 'f' => some (.literal '\x0c' false, cs)
      | 't' => some (.literal '\t' false, cs)
      | 'n' => some (.literal '\n' false, cs)
      | 'r' => some (.literal '\r' false, cs)
      | 'v' => some (.literal '\x0b' false, cs)
      | 'A' => some (.look .textStart, cs)
      | 'z' => some (.look .textEnd, cs)
      | 'b' => (boundaryKind f cs).map fun (l, rest) => (.look l, rest)
      | 'B' => some (.look (.notWordBoundary f.unicode), cs)
      | '<' => some (.look (.wordStart f.unicode), cs)
      | '>' => some (.look (.wordEnd f.unicode), cs)
      | _ => none

/-- The set of a literal inside a class; without `u` it must be ASCII. -/
def literalCode? (f : Flags) (c : Char) : Option Nat :=
  if f.unicode || c.toNat < 128 then some c.toNat else none

/-- The pattern of an element outside classes. -/
def Element.pattern? (f : Flags) : Element → Option Pattern
  | .literal c isByte =>
    if !f.unicode && 128 ≤ c.toNat && (isByte || f.caseless) then none
    else some (.chars (f.fold (.singleton c.toNat)))
  | .set s => if f.unicode || s.isAscii then some (.chars s) else none
  | .dot =>
    if !f.unicode then none
    else if f.dotAll then some (.chars (.upTo Unicode.lastCode))
    else
      let breaks := if f.crlf then [(10, 10), (13, 13)] else [(10, 10)]
      some (.chars ((CodeSet.ofRanges breaks).complement Unicode.lastCode))
  | .look l => some (.look l)

end Assay.Regex
