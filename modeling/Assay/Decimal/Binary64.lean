import Assay.Decimal.Power

/-!
# Binary floating point numbers

A finite number of the 64-bit binary format is a sign, a mantissa below 2^53 and an exponent, and
stands for `mantissa * 2 ^ exponent`. All arithmetic here is exact on naturals; `ofRatio` is the
only place where a value is rounded, to the nearest representable number and to the even mantissa
in a tie.
-/

namespace Assay

/-- A number of the 64-bit binary floating point format. -/
inductive Binary64 where
  /-- A finite number, zero included; zero has a sign. -/
  | finite (negative : Bool) (mantissa : Nat) (exponent : Int)
  | infinite (negative : Bool)
  | nan
  deriving DecidableEq, Repr, Inhabited

namespace Binary64

/-- The number of bits of a mantissa. -/
def precision : Nat := 53

/-- The exponent of the smallest positive number. -/
def leastExponent : Int := -1074

/-- The exponent of the greatest finite numbers. -/
def greatestExponent : Int := 971

/-! ## Rounding a ratio -/

/-- `num / den` to the nearest integer, a tie to the even one. -/
def roundDiv (num den : Nat) : Nat :=
  let q := num / den
  let r := num % den
  if den < 2 * r then q + 1
  else if 2 * r = den then q + q % 2
  else q

/-- The greatest `k` with `2 ^ k ≤ num / den`, for positive numbers. -/
def floorLog2 (num den : Nat) : Int :=
  let guess : Int := (Nat.log2 num : Int) - (Nat.log2 den : Int)
  if num * twoTo (-guess).toNat < den * twoTo guess.toNat then guess - 1 else guess

/-- The number nearest to `num / den`; too great a ratio becomes infinite. -/
def ofRatio (negative : Bool) (num den : Nat) : Binary64 :=
  if num = 0 ∨ den = 0 then .finite negative 0 leastExponent
  else
    let exponent := max (floorLog2 num den - 52) leastExponent
    let m := roundDiv (num * twoTo (-exponent).toNat) (den * twoTo exponent.toNat)
    let (m, exponent) := if m = twoTo precision then (twoTo 52, exponent + 1) else (m, exponent)
    if greatestExponent < exponent then .infinite negative
    else .finite negative m exponent

/-- The number nearest to an integer. -/
def ofInt (n : Int) : Binary64 := ofRatio (n < 0) n.natAbs 1

/-- The number nearest to `digits * 10 ^ scale`. Far outside the range of the format the power of
ten is not computed. -/
def ofDecimal (negative : Bool) (digits : Nat) (scale : Int) : Binary64 :=
  let size : Int := (Nat.log2 digits : Int) / 3 + 1 + scale
  if digits = 0 ∨ size < -400 then .finite negative 0 leastExponent
  else if 800 < (Nat.log2 digits : Int) / 4 + scale then .infinite negative
  else ofRatio negative (digits * tenTo scale.toNat) (tenTo (-scale).toNat)

/-! ## Order and arithmetic -/

def zero : Binary64 := .finite false 0 leastExponent

/-- The exact value of a finite number times `2 ^ 1074`, an integer. -/
def scaled (negative : Bool) (mantissa : Nat) (exponent : Int) : Int :=
  let n : Int := ((mantissa * twoTo (exponent - leastExponent).toNat : Nat) : Int)
  if negative then -n else n

/-- Whether a number is at most zero. What is no number is not. -/
def nonpositive : Binary64 → Bool
  | .finite negative m _ => negative || m == 0
  | .infinite negative => negative
  | .nan => false

/-- Whether a number is beyond all finite ones. -/
def isInfinite : Binary64 → Bool
  | .infinite _ => true
  | _ => false

/-- Whether a number is a zero of either sign. -/
def isZero : Binary64 → Bool
  | .finite _ m _ => m == 0
  | _ => false

/-- The number with the other sign. -/
def neg : Binary64 → Binary64
  | .finite negative m e => .finite (!negative) m e
  | .infinite negative => .infinite (!negative)
  | .nan => .nan

/-- The sum, rounded once. -/
def add : Binary64 → Binary64 → Binary64
  | .finite s m e, .finite s' m' e' =>
    let sum := scaled s m e + scaled s' m' e'
    if sum = 0 then .finite (s && s') 0 leastExponent
    else ofRatio (sum < 0) sum.natAbs (twoTo 1074)
  | .infinite s, .infinite s' => if s = s' then .infinite s else .nan
  | .infinite s, .finite .. => .infinite s
  | .finite .., .infinite s => .infinite s
  | .nan, _ => .nan
  | _, .nan => .nan

/-- The product, rounded once. -/
def mul : Binary64 → Binary64 → Binary64
  | .finite s m e, .finite s' m' e' =>
    ofRatio (s != s') (m * m' * twoTo (e + e').toNat) (twoTo (-(e + e')).toNat)
  | .infinite s, .finite s' m _ => if m = 0 then .nan else .infinite (s != s')
  | .finite s m _, .infinite s' => if m = 0 then .nan else .infinite (s != s')
  | .infinite s, .infinite s' => .infinite (s != s')
  | .nan, _ => .nan
  | _, .nan => .nan

/-- The product with a natural number, rounded once. -/
def scale (n : Nat) : Binary64 → Binary64
  | .finite s m e => ofRatio s (m * n * twoTo (e - leastExponent).toNat) (twoTo 1074)
  | .infinite s => if n = 0 then .nan else .infinite s
  | .nan => .nan

/-- Whether the number is exactly the integer. -/
def equalsInt (n : Int) : Binary64 → Bool
  | .finite s m e => scaled s m e == n * (twoTo 1074 : Int)
  | _ => false

end Binary64

end Assay
