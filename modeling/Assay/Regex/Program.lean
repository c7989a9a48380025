import Assay.Regex.Pattern
import Assay.Unicode.Property

/-!
# Running a pattern

A pattern becomes a program, an array of instructions that refer to each other by index. A search
keeps the set of instructions that wait for the next character; each position adds the first
instruction, so a match may begin anywhere. The work per character is bounded by the size of the
program, whatever the text.
-/

namespace Assay.Regex

open Unicode (CodeSet)

/-- One instruction. -/
inductive Instr where
  | chars (set : CodeSet) (next : Nat)
  | look (l : Look) (next : Nat)
  | split (first second : Nat)
  | accept
  deriving Inhabited

namespace Pattern

/-- Puts `n` copies of a program part in front of `next`. -/
def copies (part : Nat → Array Instr → Array Instr × Nat) :
    Nat → Nat → Array Instr → Array Instr × Nat
  | 0, next, code => (code, next)
  | n + 1, next, code =>
    let (code, entry) := part next code
    copies part n entry code

/-- Puts up to `n` copies of a program part in front of `exit`, each of which may be left out. -/
def options (part : Nat → Array Instr → Array Instr × Nat) (exit : Nat) :
    Nat → Nat → Array Instr → Array Instr × Nat
  | 0, next, code => (code, next)
  | n + 1, next, code =>
    let (code, entry) := part next code
    options part exit n code.size (code.push (.split entry exit))

/-- Appends an instruction; the result names it. -/
def append (i : Instr) (code : Array Instr) : Array Instr × Nat :=
  let entry := code.size
  (code.push i, entry)

/-- Appends the instructions of a pattern that go on at `next`; the result names the first. -/
def emit : Pattern → Nat → Array Instr → Array Instr × Nat
  | .empty, next, code => (code, next)
  | .chars s, next, code => append (.chars s next) code
  | .look l, next, code => append (.look l next) code
  | .seq a b, next, code =>
    let (code, entry) := emit b next code
    emit a entry code
  | .alt a b, next, code =>
    let (code, first) := emit a next code
    let (code, second) := emit b next code
    append (.split first second) code
  | .rep a least most, next, code =>
    let rounds (n : Nat) := if a.isEmptyOnly then min n 1 else n
    match most with
    | some m =>
      let (code, entry) := options (emit a) next (rounds m - rounds least) next code
      copies (emit a) (rounds least) entry code
    | none =>
      let loop := code.size
      let (code, entry) := emit a loop (code.push .accept)
      copies (emit a) (rounds least) loop (code.set! loop (.split entry next))

end Pattern

/-- A program and its first instruction. -/
structure Program where
  code : Array Instr
  start : Nat

/-- The program of a pattern. -/
def Program.ofPattern (p : Pattern) : Program :=
  let (code, start) := p.emit 0 #[.accept]
  ⟨code, start⟩

/-- Whether a character belongs to words. -/
def isWord (unicode : Bool) (c : Option Char) : Bool :=
  match c with
  | none => false
  | some c =>
    if unicode && 128 ≤ c.toNat then Unicode.wordCharacter.contains c.toNat
    else c.isAlphanum || c = '_'

/-- Whether a look holds between two neighbouring characters, absent at the ends of the text. -/
def Look.holds (before after : Option Char) : Look → Bool
  | .textStart => before.isNone
  | .textEnd => after.isNone
  | .lineStart => before.isNone || before == some '\n'
  | .lineEnd => after.isNone || after == some '\n'
  | .crlfStart =>
    before.isNone || before == some '\n' || (before == some '\r' && after != some '\n')
  | .crlfEnd =>
    after.isNone || after == some '\r' || (after == some '\n' && before != some '\r')
  | .wordBoundary u => isWord u before != isWord u after
  | .notWordBoundary u => isWord u before == isWord u after
  | .wordStart u => !isWord u before && isWord u after
  | .wordEnd u => isWord u before && !isWord u after
  | .wordStartHalf u => !isWord u before
  | .wordEndHalf u => !isWord u after

namespace Program

/-- What is reachable without reading a character. -/
structure Reach where
  seen : Array Bool
  /-- The sets that wait for a character, each with the instruction behind it. -/
  waiting : List (CodeSet × Nat)
  accepted : Bool

/-- Follows the instructions on a stack as far as they read nothing. Every instruction is followed
once and pushes at most two more, which bounds the rounds. -/
def follow (code : Array Instr) (before after : Option Char) :
    (rounds : Nat) → List Nat → Reach → Reach
  | 0, _, r => r
  | _, [], r => r
  | rounds + 1, i :: stack, r =>
    if r.seen.getD i true then follow code before after rounds stack r
    else
      let r := { r with seen := r.seen.set! i true }
      match code[i]? with
      | none => follow code before after rounds stack r
      | some .accept => { r with accepted := true }
      | some (.chars s next) =>
        follow code before after rounds stack { r with waiting := (s, next) :: r.waiting }
      | some (.look l next) =>
        let stack := if l.holds before after then next :: stack else stack
        follow code before after rounds stack r
      | some (.split a b) => follow code before after rounds (a :: b :: stack) r

/-- Whether a match ends in the rest of a text, from the instructions reached so far on. -/
def search (p : Program) : (before : Option Char) → List Nat → List Char → Bool
  | before, reached, rest =>
    let stack := p.start :: reached
    let rounds := 2 * p.code.size + stack.length + 1
    let r := follow p.code before rest.head? rounds stack ⟨.replicate p.code.size false, [], false⟩
    if r.accepted then true
    else
      match rest with
      | [] => false
      | c :: rest =>
        let next := r.waiting.filterMap fun (s, n) => if s.contains c.toNat then some n else none
        search p (some c) next rest

/-- Whether some part of the text matches. -/
def isMatch (p : Program) (text : List Char) : Bool :=
  p.search none [] text

end Program

end Assay.Regex
