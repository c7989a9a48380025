import Assay.Json.Basic
import Assay.Number.Whole

/-!
# JSON numbers

A number without fraction and exponent that fits a word of 64 bits is whole, except that `-0` is
the binary64 number. Any other number is taken from its leading digits, as many as fit 64 bits, by
one multiplication with a power of ten or by divisions, each rounded to binary64. A number too large
for binary64 has no value.
-/

namespace Assay.Json

/-- The parts of a number as written. -/
structure NumberText where
  negative : Bool
  whole : List Nat
  fraction : List Nat
  /-- The exponent, if one is written. -/
  exponent : Option Int

/-- Appends digits to a number as long as it stays within 64 bits; also counts the digits left. -/
def absorb : (n : Nat) → List Nat → Nat × Nat
  | n, [] => (n, 0)
  | n, d :: ds => if n * 10 + d < Number.words64 then absorb (n * 10 + d) ds else (n, ds.length + 1)

/-- The binary64 number nearest to a power of ten. -/
def powerOfTen (k : Nat) : Binary64 :=
  .ofDecimal false 1 k

/-- Divides by ten to the `k`, in steps of at most 308. -/
def divideByPower : (rounds : Nat) → Binary64 → Nat → Binary64
  | 0, x, _ => x
  | rounds + 1, x, k =>
    if k ≤ 308 then x.div (powerOfTen k)
    else if x.isZero then x
    else divideByPower rounds (x.div (powerOfTen 308)) (k - 308)

/-- The leading digits scaled by a power of ten; none if that is too large. -/
def scaled? (digits : Nat) (exponent : Int) : Option Binary64 :=
  let x := Binary64.ofNat false digits
  match exponent with
  | .negSucc k => some (divideByPower 8 x (k + 1))
  | .ofNat k =>
    if x.isZero then some x
    else if 308 < k then none
    else
      match x.mul (powerOfTen k) with
      | .infinite _ => none
      | y => some y

/-- The value of a number, if it has one. -/
def NumberText.value? (t : NumberText) : Option Json :=
  let (digits, left) := absorb 0 t.whole
  if t.fraction.isEmpty && t.exponent.isNone && left = 0 then
    if !t.negative then some (.whole digits)
    else if digits = 0 ∨ Number.words63 < digits then some (.real (.ofNat true digits))
    else some (.whole (-digits))
  else
    let (digits, dropped) := absorb digits t.fraction
    let used := t.fraction.length - dropped
    let exponent := t.exponent.getD 0 + left - used
    (scaled? digits exponent).map fun x => .real (if t.negative then x.neg else x)

end Assay.Json
