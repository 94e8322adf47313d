import Assay.Decimal.Binary64

/-!
# The shortest decimal that reads back

The decimals that round to a given binary number form an interval around it. Among the grids of
one digit, two digits and so on, the first grid with a point in the interval gives the shortest
decimal; one of the two neighbours of the number on that grid is such a point, and of two the
nearer is taken. Everything is compared exactly, with numerators over a common denominator.
-/

namespace Assay

/-- A positive decimal `digits * 10 ^ scale`. -/
structure Decimal where
  digits : Nat
  scale : Int
  deriving DecidableEq, Repr

namespace Decimal

/-- The decimal without zeros at its end. The bound is on the number of digits. -/
def dropZeros (d : Decimal) : Decimal :=
  go d.digits d
where
  /-- Drops at most `bound` zeros. -/
  go : Nat → Decimal → Decimal
    | 0, d => d
    | bound + 1, d =>
      if d.digits ≠ 0 ∧ d.digits % 10 = 0 then go bound ⟨d.digits / 10, d.scale + 1⟩ else d

/-- The greatest `k` with `10 ^ k ≤ num / den`, for positive numbers within the range of the
format. -/
def floorLog10 (num den : Nat) : Int :=
  let guess : Int := Binary64.floorLog2 num den * 30103 / 100000
  let atLeast (k : Int) : Bool := den * tenTo k.toNat ≤ num * tenTo (-k).toNat
  if atLeast (guess + 1) then guess + 1
  else if atLeast guess then guess
  else guess - 1

end Decimal

namespace Binary64

/-- The interval of reals that round to a number, as numerators over `4 * 2 ^ 1074`: the number, the
lower end, the upper end. Below a power of two the numbers are twice as dense. -/
structure Interval where
  middle : Nat
  lower : Nat
  upper : Nat
  /-- Whether the ends belong to it: ties go to the even mantissa. -/
  closed : Bool

/-- The interval of a positive finite number. -/
def interval (mantissa : Nat) (exponent : Int) : Interval :=
  let unit := twoTo (exponent - leastExponent).toNat
  let below := if mantissa = twoTo 52 ∧ leastExponent < exponent then unit else 2 * unit
  { middle := 4 * mantissa * unit
    lower := 4 * mantissa * unit - below
    upper := 4 * mantissa * unit + 2 * unit
    closed := mantissa % 2 = 0 }

/-- Whether the ratio `num / den` lies in the interval. -/
def Interval.holds (i : Interval) (num den : Nat) : Bool :=
  if i.closed then i.lower * den ≤ num && num ≤ i.upper * den
  else i.lower * den < num && num < i.upper * den

/-- The common denominator of the intervals. -/
def denominator : Nat := 4 * twoTo 1074

/-- The point of the grid with steps `10 ^ scale` that lies in the interval, the nearer of two. -/
def gridPoint? (i : Interval) (scale : Int) : Option Nat :=
  -- The grid's step over the common denominator is `num / den`.
  let num := denominator * tenTo scale.toNat
  let den := tenTo (-scale).toNat
  let low := i.middle * den / num
  let high := low + 1
  let lowFits := i.holds (low * num) den && low != 0
  let highFits := i.holds (high * num) den
  if lowFits && highFits then
    let toLow := i.middle * den - low * num
    let toHigh := high * num - i.middle * den
    if toHigh < toLow then some high
    else if toLow < toHigh then some low
    else some (low + low % 2)
  else if lowFits then some low
  else if highFits then some high
  else none

/-- The shortest decimal that reads back as a positive finite number, found on the grids of
`count` digits and more; seventeen digits always suffice. -/
def shortestFrom (i : Interval) (top : Int) (count fuel : Nat) : Decimal :=
  match fuel with
  | 0 => ⟨(gridPoint? i (top + 1 - count)).getD 0, top + 1 - count⟩
  | fuel + 1 =>
    match gridPoint? i (top + 1 - count) with
    | some digits => ⟨digits, top + 1 - count⟩
    | none => shortestFrom i top (count + 1) fuel

/-- The shortest decimal that reads back as `mantissa * 2 ^ exponent`. -/
def shortest (mantissa : Nat) (exponent : Int) : Decimal :=
  let i := interval mantissa exponent
  (shortestFrom i (Decimal.floorLog10 i.middle denominator) 1 17).dropZeros

end Binary64

end Assay
