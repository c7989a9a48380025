/-!
# Binary64 numbers

Every finite binary64 number is a whole multiple of 2⁻¹⁰⁷⁴, so a number is a sign and a count of
such units, an infinity, or not a number. Arithmetic is exact arithmetic on counts followed by one
rounding, to the nearest representable count and to the even neighbour on a tie.
-/

namespace Assay

/-- A binary64 number; `units` counts multiples of 2⁻¹⁰⁷⁴. -/
inductive Binary64 where
  | nan
  | infinite (negative : Bool)
  | finite (negative : Bool) (units : Nat)
  deriving DecidableEq, Repr, Inhabited

namespace Binary64

/-- The number of units in one. -/
def one : Nat := Nat.pow 2 1074

/-- The least count of units that is too large for a finite number. -/
def limit : Nat := Nat.pow 2 2098

/-- The quotient rounded to the nearest whole number, to the even one on a tie. -/
def roundDiv (num den : Nat) : Nat :=
  let q := num / den
  let r := num % den
  if 2 * r < den then q
  else if den < 2 * r then q + 1
  else if q % 2 = 0 then q else q + 1

/-- The distance between neighbouring representable counts just above `units`. -/
def spacing (units : Nat) : Nat :=
  Nat.pow 2 (units.log2 - 52)

/-- The representable count nearest to `num / den`. -/
def roundUnits (num den : Nat) : Nat :=
  let step := spacing (num / den)
  roundDiv num (den * step) * step

/-- The number nearest to a count of units given as a fraction. -/
def ofUnits (negative : Bool) (num den : Nat) : Binary64 :=
  let units := roundUnits num den
  if units < limit then .finite negative units else .infinite negative

/-- The number nearest to a whole number. -/
def ofNat (negative : Bool) (n : Nat) : Binary64 :=
  ofUnits negative (n * one) 1

/-- The number nearest to `mantissa · 10 ^ exponent`. Exponents far outside the range of finite
numbers are settled without computing the power. -/
def ofDecimal (negative : Bool) (mantissa : Nat) (exponent : Int) : Binary64 :=
  if mantissa = 0 then .finite negative 0
  else if 400 < exponent then .infinite negative
  else
    match exponent with
    | .ofNat e => ofUnits negative (mantissa * Nat.pow 10 e * one) 1
    | .negSucc e =>
      if mantissa.log2 + 1101 < 3 * (e + 1) then .finite negative 0
      else ofUnits negative (mantissa * one) (Nat.pow 10 (e + 1))

/-- Zero of either sign. -/
def isZero : Binary64 → Bool
  | .finite _ 0 => true
  | _ => false

/-- The number with the other sign. -/
def neg : Binary64 → Binary64
  | .nan => .nan
  | .infinite s => .infinite !s
  | .finite s u => .finite (!s) u

/-- The sum. -/
def add : Binary64 → Binary64 → Binary64
  | .nan, _ => .nan
  | _, .nan => .nan
  | .infinite s, .infinite t => if s = t then .infinite s else .nan
  | .infinite s, _ => .infinite s
  | _, .infinite t => .infinite t
  | .finite s u, .finite t v =>
    if s = t then ofUnits s (u + v) 1
    else if v < u then ofUnits s (u - v) 1
    else if u < v then ofUnits t (v - u) 1
    else .finite false 0

/-- The product. -/
def mul : Binary64 → Binary64 → Binary64
  | .nan, _ => .nan
  | _, .nan => .nan
  | .infinite s, .infinite t => .infinite (s != t)
  | .infinite s, .finite t v => if v = 0 then .nan else .infinite (s != t)
  | .finite s u, .infinite t => if u = 0 then .nan else .infinite (s != t)
  | .finite s u, .finite t v => ofUnits (s != t) (u * v) one

/-- The quotient. -/
def div : Binary64 → Binary64 → Binary64
  | .nan, _ => .nan
  | _, .nan => .nan
  | .infinite _, .infinite _ => .nan
  | .infinite s, .finite t _ => .infinite (s != t)
  | .finite s _, .infinite t => .finite (s != t) 0
  | .finite s u, .finite t v =>
    if v = 0 then if u = 0 then .nan else .infinite (s != t)
    else ofUnits (s != t) (u * one) v

/-- The order, which relates nothing to what is not a number, and takes the two zeros as equal. -/
def compare? : Binary64 → Binary64 → Option Ordering
  | .nan, _ => none
  | _, .nan => none
  | .infinite s, .infinite t => some (compare t.toNat s.toNat)
  | .infinite s, _ => some (if s then .lt else .gt)
  | _, .infinite t => some (if t then .gt else .lt)
  | .finite s u, .finite t v =>
    let signed (negative : Bool) (n : Nat) : Int := if negative then -Int.ofNat n else Int.ofNat n
    some (compare (signed s u) (signed t v))

/-- The whole number nearest to a magnitude, the larger one on a tie. -/
def roundToNat (units : Nat) : Nat :=
  (2 * units + one) / (2 * one)

end Binary64

end Assay
