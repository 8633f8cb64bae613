import HybridStorage.Quantity

/-!
# Double-precision numbers as data

A `Binary64` is the 64-bit pattern of an IEEE double, so that equal patterns are equal values of the
type and `-0` and the sign of a NaN are kept. `value` reads a pattern, `ofQuotient` and `ofDecimal`
round to the nearest pattern. Both work in exact integer arithmetic: a magnitude is a natural number
times a power of two. Powers are shifts and `Nat.pow` here, since `^` on natural numbers is another
operation in a module that imports Mathlib.
-/

namespace HybridStorage

/-- The pattern of an IEEE double. -/
structure Binary64 where
  bits : UInt64
  deriving DecidableEq, Repr, Inhabited

namespace Binary64

/-- The bit before the fraction of a normal number, which the pattern leaves out: `2 ^ 52`. -/
def hiddenBit : Nat := 0x10000000000000

/-- The sign's place in the pattern: `2 ^ 63`. -/
def signBit : Nat := 0x8000000000000000

/-- The number `mantissa * 2 ^ exponent`. -/
structure Magnitude where
  mantissa : Nat
  exponent : Int
  deriving DecidableEq, Repr

/-- What a pattern stands for. -/
inductive Value where
  | nan
  | infinite (negative : Bool)
  | finite (negative : Bool) (magnitude : Magnitude)
  deriving DecidableEq, Repr

namespace Magnitude

/-- With `denominator`, the magnitude as a quotient. -/
def numerator (x : Magnitude) : Nat := x.mantissa <<< x.exponent.toNat

def denominator (x : Magnitude) : Nat := 1 <<< (-x.exponent).toNat

def floor (x : Magnitude) : Nat := x.numerator / x.denominator

/-- The nearest integer, a half going up. -/
def round (x : Magnitude) : Nat := (2 * x.numerator + x.denominator) / (2 * x.denominator)

end Magnitude

/-- The integer nearest to `numerator / denominator`, a half going to the even neighbour. -/
def roundHalfEven (numerator denominator : Nat) : Nat :=
  let floor := numerator / denominator
  let twice := 2 * (numerator % denominator)
  if twice < denominator ∨ (twice = denominator ∧ floor % 2 = 0) then floor else floor + 1

/-- The greatest `k` with `2 ^ k ≤ numerator / denominator`, for positive arguments. -/
def binaryOrder (numerator denominator : Nat) : Int :=
  let guess : Int := (numerator.log2 : Int) - (denominator.log2 : Int)
  if denominator <<< guess.toNat ≤ numerator <<< (-guess).toNat then guess else guess - 1

/-- The double nearest to `numerator / denominator`, with 53 significant bits where the least
exponent allows; ties go to the even mantissa. The exponent has no upper bound. -/
def nearest (numerator denominator : Nat) : Magnitude :=
  if numerator = 0 then ⟨0, -1074⟩
  else
    let exponent := max (-1074) (binaryOrder numerator denominator - 52)
    ⟨roundHalfEven (numerator <<< (-exponent).toNat) (denominator <<< exponent.toNat), exponent⟩

def value (x : Binary64) : Value :=
  let word := x.bits.toNat
  let fraction := word % hiddenBit
  let exponent := word / hiddenBit % 2048
  let negative : Bool := signBit ≤ word
  if exponent = 2047 then
    if fraction = 0 then .infinite negative else .nan
  else if exponent = 0 then .finite negative ⟨fraction, -1074⟩
  else .finite negative ⟨hiddenBit + fraction, (exponent : Int) - 1075⟩

/-- The pattern of a rounded magnitude, infinite above the greatest double. -/
def pack (negative : Bool) (x : Magnitude) : Binary64 :=
  let infinity := 2047 * hiddenBit
  let magnitude :=
    if x.mantissa < hiddenBit then x.mantissa
    else min infinity ((x.exponent + 1074).toNat * hiddenBit + x.mantissa)
  ⟨UInt64.ofNat (if negative then signBit + magnitude else magnitude)⟩

/-- The double nearest to `numerator / denominator`. -/
def ofQuotient (numerator denominator : Nat) : Binary64 :=
  pack false (nearest numerator denominator)

def ofNat (n : Nat) : Binary64 := ofQuotient n 1

def ofInt (n : Int) : Binary64 := pack (n < 0) (nearest n.natAbs 1)

def infinity (negative : Bool) : Binary64 :=
  ⟨if negative then 0xfff0000000000000 else 0x7ff0000000000000⟩

def nan (negative : Bool) : Binary64 :=
  ⟨if negative then 0xfff8000000000000 else 0x7ff8000000000000⟩

/-- The double nearest to `digits * 10 ^ exponent`, with the sign given. Exponents that put the
number beyond either end of the range are cut off before any power is formed. -/
def ofDecimal (negative : Bool) (digits : Nat) (exponent : Int) : Binary64 :=
  let order : Int := (digits.log2 * 3 / 10 : Nat) + exponent
  if digits = 0 ∨ order < -400 then pack negative ⟨0, -1074⟩
  else if 400 < order then infinity negative
  else pack negative (nearest (digits * Nat.pow 10 exponent.toNat) (Nat.pow 10 (-exponent).toNat))

/-- The same number for floating-point arithmetic. -/
def toFloat (x : Binary64) : Float := Float.ofBits x.bits

def ofFloat (x : Float) : Binary64 := ⟨x.toBits⟩

def isNaN (x : Binary64) : Bool := x.value = .nan

/-- The integer nearest to `x` between `low` and `high`, a half going away from zero; a NaN
counts as zero. -/
def roundWithin (low high : Int) (x : Binary64) : Int :=
  match x.value with
  | .nan => max low (min 0 high)
  | .infinite negative => if negative then low else high
  | .finite negative magnitude =>
    let n : Int := if negative then -magnitude.round else magnitude.round
    max low (min n high)

end Binary64

end HybridStorage
