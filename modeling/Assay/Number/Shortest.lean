import Assay.Number.Binary64
import Assay.Number.Whole

/-!
# Shortest decimal text of a number

The digits written for a binary64 number are the fewest that read back as it, and among those the
ones nearest to it, the larger on a tie. They are written in positional notation, never with an
exponent.
-/

namespace Assay.Binary64

/-- A decimal number `digits · 10 ^ exponent`. -/
structure Decimal where
  digits : Nat
  exponent : Int
  deriving Repr, DecidableEq

/-- The interval of reals that round to a count of units, in halves of half a unit: four times its
lower end, four times its upper end, and whether the ends belong to it. -/
def roundingInterval (units : Nat) : Nat × Nat × Bool :=
  let step := spacing units
  let below := if units = Nat.pow 2 units.log2 ∧ 1 < step then step / 2 else step
  (4 * units - 2 * below, 4 * units + 2 * step, units / step % 2 = 0)

/-- The decimals with the exponent `e` next to a count of units that round to it, the better first.
A decimal with exponent `e` is the fraction `d · num / den` of quarter units. -/
def onGrid? (units : Nat) (e : Int) : Option Decimal :=
  let (num, den) : Nat × Nat :=
    match e with
    | .ofNat k => (4 * one * Nat.pow 10 k, 1)
    | .negSucc k => (4 * one, Nat.pow 10 (k + 1))
  let (low, high, closed) := roundingInterval units
  let inside (d : Nat) : Bool :=
    let x := d * num
    if closed then low * den ≤ x && x ≤ high * den else low * den < x && x < high * den
  let target := 4 * units * den
  let d := target / num
  let belowGap := target - d * num
  let aboveGap := (d + 1) * num - target
  let order := if aboveGap ≤ belowGap then [d + 1, d] else [d, d + 1]
  (order.find? inside).map fun d => ⟨d, e⟩

/-- The exponent of the leading decimal digit of a positive count of units. -/
def leadingExponent (units : Nat) : Int :=
  if one ≤ units then ((decimalLength (units / one) : Nat) : Int) - 1
  else -(((List.range 400).find? fun k => one ≤ units * Nat.pow 10 k).getD 400 : Nat)
where
  /-- The number of decimal digits. -/
  decimalLength (n : Nat) : Nat := (Nat.toDigits 10 n).length

/-- The shortest decimal that rounds to a positive count of units. -/
def shortest (units : Nat) : Decimal :=
  let top := leadingExponent units
  ((List.range 20).findSome? fun (n : Nat) => onGrid? units (top - (n : Int))).getD ⟨units, 0⟩

/-- A decimal in positional notation, without a fraction when it is whole. -/
def Decimal.positional (d : Decimal) : String :=
  match d.exponent with
  | .ofNat k => toString (d.digits * Nat.pow 10 k)
  | .negSucc k =>
    let scale := Nat.pow 10 (k + 1)
    let whole := toString (d.digits / scale)
    let part := (toString (scale + d.digits % scale)).toList.drop 1
    let part := (part.reverse.dropWhile (· = '0')).reverse
    if part.isEmpty then whole else whole ++ "." ++ String.ofList part

/-- The text of a number. -/
def text : Binary64 → String
  | .nan => "NaN"
  | .infinite negative => if negative then "-inf" else "inf"
  | .finite negative units =>
    let digits := if units = 0 then "0" else (shortest units).positional
    if negative then "-" ++ digits else digits

end Assay.Binary64
