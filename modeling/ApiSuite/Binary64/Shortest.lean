import ApiSuite.Binary64.Basic

/-! # The shortest decimal text of a binary64 number

The reals that round to a number form an interval around it, with its ends when the mantissa is
even. The coarsest grid of multiples of a power of ten with a point in that interval gives the
fewest digits that read back, and the point nearest to the number is taken.
-/
namespace ApiSuite.Binary64

/-- The interval of a positive number, as its ends and the number itself over one denominator. -/
structure Interval where
  low : Nat
  value : Nat
  high : Nat
  den : Nat
  closed : Bool

/-- Half a unit in the last place on each side, a quarter below a power of two. -/
def interval (x : Binary64) : Interval :=
  let scale := Nat.pow 2 x.exponent.toNat
  let below := if x.mantissa = Nat.pow 2 52 ∧ minExponent < x.exponent then 1 else 2
  { low := (4 * x.mantissa - below) * scale
    value := 4 * x.mantissa * scale
    high := (4 * x.mantissa + 2) * scale
    den := 4 * Nat.pow 2 (-x.exponent).toNat
    closed := x.mantissa % 2 == 0 }

def Interval.contains (i : Interval) (n : Nat) : Bool :=
  if i.closed then i.low ≤ n && n ≤ i.high else i.low < n && n < i.high

/-- The multiple of `10 ^ p` in the interval that is nearest to the value, if there is one. Of two
that are equally near, the one with the even last digit is taken. -/
def Interval.onGrid? (i : Interval) (p : Int) : Option Nat :=
  let up := Nat.pow 10 (-p).toNat
  let i := { i with low := i.low * up, value := i.value * up, high := i.high * up }
  let step := i.den * Nat.pow 10 p.toNat
  let d := i.value / step
  match i.contains (d * step), i.contains ((d + 1) * step) with
  | true, true =>
    let twice := 2 * (i.value - d * step)
    some (if twice < step || twice == step && d % 2 == 0 then d else d + 1)
  | true, false => some d
  | false, true => some (d + 1)
  | false, false => none

def Interval.coarsest (i : Interval) (p : Int) : Nat → Nat × Int
  | 0 => (0, 0)
  | fuel + 1 => match i.onGrid? p with
    | some d => (d, p)
    | none => i.coarsest (p - 1) fuel

/-- The fewest digits that read back, with the power of ten of the last one. -/
def shortest (x : Binary64) : Nat × Int := x.interval.coarsest 308 640

/-- A magnitude from `10 ^ (-5)` up to `10 ^ 16` is written positionally with at least one decimal,
any other one in scientific form with a signed exponent. -/
def layout (digits : List Char) (exponent : Int) : List Char :=
  let lead := exponent + digits.length - 1
  if lead < -5 ∨ 15 < lead then
    let mantissa := match digits with
      | [] => []
      | [d] => [d]
      | d :: rest => d :: '.' :: rest
    let sign := if lead < 0 then '-' else '+'
    mantissa ++ 'e' :: sign :: (Nat.repr lead.natAbs).toList
  else if lead < 0 then
    '0' :: '.' :: List.replicate (-lead - 1).toNat '0' ++ digits
  else
    let whole := (lead + 1).toNat
    let padded := digits ++ List.replicate (whole - digits.length) '0'
    let decimals := padded.drop whole
    padded.take whole ++ '.' :: (if decimals.isEmpty then ['0'] else decimals)

def chars (x : Binary64) : List Char :=
  let magnitude :=
    if x.isZero then ['0', '.', '0']
    else layout (Nat.repr x.shortest.1).toList x.shortest.2
  if x.negative then '-' :: magnitude else magnitude

end ApiSuite.Binary64
