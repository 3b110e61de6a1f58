/-! # Finite binary64 numbers

A finite number of the 64-bit binary format is a sign, a mantissa below `2 ^ 53` and an exponent,
kept in the one form in which the mantissa is as large as the format allows. All arithmetic is
exact on natural numbers followed by one rounding to nearest, ties to the even mantissa.
-/
namespace ApiSuite

/-- The number `mantissa * 2 ^ exponent`, negated when `negative`. -/
structure Binary64 where
  negative : Bool
  mantissa : Nat
  exponent : Int
  deriving DecidableEq

namespace Binary64

def minExponent : Int := -1074

def maxExponent : Int := 971

def zero : Binary64 := ⟨false, 0, minExponent⟩

def isZero (x : Binary64) : Bool := x.mantissa == 0

def withSign (negative : Bool) (x : Binary64) : Binary64 := { x with negative := negative }

/-- The quotient rounded to nearest, a tie to the even neighbour. -/
def roundQuotient (num den : Nat) : Nat :=
  let q := num / den
  let twice := 2 * (num % den)
  if twice < den then q else if den < twice then q + 1 else q + q % 2

def floorLog (num den : Nat) : Int :=
  let e : Int := num.log2 - den.log2
  if num * Nat.pow 2 (-e).toNat < den * Nat.pow 2 e.toNat then e - 1 else e

/-- The number nearest to `num / den`, or nothing when it is beyond the greatest finite one. -/
def ofRatio? (num den : Nat) : Option Binary64 :=
  if num = 0 then some zero
  else
    let q := max (floorLog num den - 52) minExponent
    let m := roundQuotient (num * Nat.pow 2 (-q).toNat) (den * Nat.pow 2 q.toNat)
    let (m, q) := if m = Nat.pow 2 53 then (Nat.pow 2 52, q + 1) else (m, q)
    if maxExponent < q then none else some ⟨false, m, q⟩

def ratio (x : Binary64) : Nat × Nat :=
  (x.mantissa * Nat.pow 2 x.exponent.toNat, Nat.pow 2 (-x.exponent).toNat)

def mul? (x y : Binary64) : Option Binary64 :=
  ofRatio? (x.ratio.1 * y.ratio.1) (x.ratio.2 * y.ratio.2)

def div? (x y : Binary64) : Option Binary64 :=
  ofRatio? (x.ratio.1 * y.ratio.2) (x.ratio.2 * y.ratio.1)

/-- The nearest number to a power of ten that the format reaches. -/
def powerOfTen (k : Nat) : Binary64 := (ofRatio? (Nat.pow 10 k) 1).getD zero

/-- Divides by the greatest power of ten of the format until the exponent is within its reach. -/
def scaleDown (x : Binary64) (k : Nat) : Nat → Binary64
  | 0 => x
  | fuel + 1 =>
    if k ≤ 308 then (div? x (powerOfTen k)).getD zero
    else if x.isZero then x
    else scaleDown ((div? x (powerOfTen 308)).getD zero) (k - 308) fuel

/-- The number read from the digits `significand` shifted by `exponent` decimal places. The digits
are rounded first and the shift is one multiplication or division by a rounded power of ten, so
the result may differ from the nearest number in its last bits. Nothing when it overflows. -/
def ofDecimal? (significand : Nat) (exponent : Int) : Option Binary64 :=
  match ofRatio? significand 1 with
  | none => none
  | some x =>
    if exponent < 0 then some (scaleDown x exponent.natAbs 8)
    else if exponent ≤ 308 then mul? x (powerOfTen exponent.natAbs)
    else if x.isZero then some x else none

end Binary64

end ApiSuite
