/-!
# Whole numbers as text

Digits of a radix from two to sixteen, signed numbers with an optional sign, and the bounds of the
fixed widths that documents and settings use.
-/

namespace Assay.Number

/-- The value of a digit, in either case for the letters. -/
def digitValue? (c : Char) : Option Nat :=
  let n := c.toNat
  if 48 ≤ n ∧ n ≤ 57 then some (n - 48)
  else if 97 ≤ n ∧ n ≤ 102 then some (n - 87)
  else if 65 ≤ n ∧ n ≤ 70 then some (n - 55)
  else none

/-- The value of a non-empty run of digits of `radix`. -/
def natural? (radix : Nat) (cs : List Char) : Option Nat :=
  if cs.isEmpty then none
  else cs.foldlM (fun n c => do
    let d ← digitValue? c
    if d < radix then some (n * radix + d) else none) 0

/-- The value of a run of digits with an optional sign in front. -/
def integer? (radix : Nat) : List Char → Option Int
  | '+' :: cs => (natural? radix cs).map Int.ofNat
  | '-' :: cs => (natural? radix cs).map fun n => -Int.ofNat n
  | cs => (natural? radix cs).map Int.ofNat

/-- The number of values of a word of 32 bits. -/
def words32 : Nat := 0x100000000

/-- The number of values of a word of 63 bits, so of the signs alike in one of 64 bits. -/
def words63 : Nat := 0x8000000000000000

/-- The number of values of a word of 64 bits. -/
def words64 : Nat := 0x10000000000000000

/-- Numbers that a signed word of 64 bits holds. -/
def isInt64 (n : Int) : Bool :=
  -words63 ≤ n && n < words63

/-- Numbers that an unsigned word of 32 bits holds. -/
def isUInt32 (n : Int) : Bool :=
  0 ≤ n && n < words32

/-- A decimal number with an optional sign that fits a signed word of 64 bits. -/
def int64? (cs : List Char) : Option Int :=
  (integer? 10 cs).filter isInt64

/-- A run of decimal digits read as a number. -/
def ofDecimalDigits (ds : List Nat) : Nat :=
  ds.foldl (fun n d => 10 * n + d) 0

end Assay.Number
