import Assay.Number.Whole
import Assay.Yaml.Cursor
import Assay.Yaml.Token

/-!
# Anchors, tags and directives

An anchor gives a node a name and an alias repeats the node. A tag says what a node is meant to be;
directives at the start of a document state its version and abbreviate tags.
-/

namespace Assay.Yaml

/-- The name of an anchor or an alias, behind its mark. -/
def anchorName (c : Cursor) : Option (String × Cursor) :=
  let (name, c) := c.take isNameChar
  let ended := atGap c.rest || c.rest.head?.any fun ch => "?:,]\x7d%@\x60".toList.contains ch
  if name.isEmpty || !ended then none else some (String.ofList name, c)

/-- A character that may stand in a tag. Some more may in a tag between angle brackets. -/
def isTagChar (bracketed : Bool) (c : Char) : Bool :=
  isNameChar c || ";/?:@&=+$.!~*'()".toList.contains c || (bracketed && ",[]".toList.contains c)

/-- The octet that a percent sign and two hexadecimal digits stand for. -/
def octet? : List Char → Option Nat
  | '%' :: a :: b :: _ => Number.natural? 16 [a, b]
  | _ => none

/-- The number of octets of a character whose first octet is given, and the bits of it in there. -/
def octetCount? (n : Nat) : Option (Nat × Nat) :=
  if n < 0x80 then some (1, n)
  else if n < 0xC0 then none
  else if n < 0xE0 then some (2, n - 0xC0)
  else if n < 0xF0 then some (3, n - 0xE0)
  else if n < 0xF8 then some (4, n - 0xF0)
  else none

/-- The character whose octets are given by percent signs, and the number of octets. -/
def escapedChar? (cs : List Char) : Option (Char × Nat) := do
  let (count, bits) ← octetCount? (← octet? cs)
  let code ← (List.range (count - 1)).foldlM (fun bits i => do
    let n ← octet? (cs.drop (3 * (i + 1)))
    if 0x80 ≤ n ∧ n < 0xC0 then some (bits * 0x40 + (n - 0x80)) else none) bits
  return (.ofNat code, count)

/-- The text of a tag up to its end. -/
def tagText (bracketed : Bool) : (rounds : Nat) → (text : List Char) → Cursor →
    Option (List Char × Cursor)
  | 0, _, _ => none
  | rounds + 1, text, c =>
    match c.rest with
    | '%' :: _ => do
      let (ch, count) ← escapedChar? c.rest
      tagText bracketed rounds (text ++ [ch]) (c.skip (3 * count))
    | ch :: _ =>
      if isTagChar bracketed ch then tagText bracketed rounds (text ++ [ch]) (c.skip 1)
      else some (text, c)
    | [] => some (text, c)

/-- The text of a tag, which may not be empty. -/
def nonemptyTagText (bracketed : Bool) (c : Cursor) : Option (List Char × Cursor) := do
  let (text, next) ← tagText bracketed (c.rest.length + 1) [] c
  if next.index = c.index then none else some (text, next)

/-- What may be the handle of a tag: an exclamation mark, a name and perhaps another exclamation
mark. -/
def tagHandle (c : Cursor) : Option (List Char × Cursor) :=
  match c.rest with
  | '!' :: _ =>
    let (name, c) := (c.skip 1).take isNameChar
    if c.rest.head? = some '!' then some ('!' :: name ++ ['!'], c.skip 1)
    else some ('!' :: name, c)
  | _ => none

/-- A tag at its exclamation mark. -/
def tag (inFlow : Bool) (c : Cursor) : Option (TagText × Cursor) := do
  let (t, c) ←
    match c.rest with
    | '!' :: '<' :: _ => do
      let (text, c) ← nonemptyTagText true (c.skip 2)
      guard (c.rest.head? = some '>')
      pure (TagText.mk "" (String.ofList text), c.skip 1)
    | _ => do
      let (handle, behind) ← tagHandle c
      if 1 < handle.length ∧ handle.getLast? = some '!' then
        let (text, c) ← nonemptyTagText false behind
        pure (TagText.mk (String.ofList handle) (String.ofList text), c)
      else
        let (more, c) ← tagText false (c.rest.length + 1) [] behind
        let suffix := handle.tail ++ more
        if suffix.isEmpty then pure (TagText.mk "" "!", c)
        else pure (TagText.mk "!" (String.ofList suffix), c)
  if (inFlow && c.rest.head? = some ',') || atGap c.rest then return (t, c) else none

/-- A number of at most nine digits. -/
def versionNumber (c : Cursor) : Option (Nat × Cursor) := do
  let (digits, c) := c.take Char.isDigit
  guard (digits.length ≤ 9)
  return (← Number.natural? 10 digits, c)

/-- A directive behind its percent sign. -/
def directive (c : Cursor) : Option (Token × Cursor) := do
  let (name, c) := c.take isNameChar
  guard (!name.isEmpty && atGap c.rest)
  let c := c.skipWhile isBlank
  let (token, c) ←
    match String.ofList name with
    | "YAML" => do
      let (major, c) ← versionNumber c
      guard (c.rest.head? = some '.')
      let (minor, c) ← versionNumber (c.skip 1)
      pure (Token.version major minor, c)
    | "TAG" => do
      let (handle, c) ← tagHandle c
      guard (handle.length = 1 ∨ handle.getLast? = some '!')
      guard (c.rest.head?.any isBlank)
      let (text, c) ← nonemptyTagText true (c.skipWhile isBlank)
      guard (atGap c.rest)
      pure (Token.tagHandle (String.ofList handle) (String.ofList text), c)
    | _ => none
  return (token, ← c.lineRest?)

end Assay.Yaml
