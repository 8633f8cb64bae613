import HybridStorage.Binary64.Basic
import HybridStorage.Text.Decimal

/-!
# Shortest decimal text of a double

`Binary64.text` writes a double with the fewest significant digits that still identify it, always in
positional notation. Of several such numbers the one nearest to the double is chosen, and the larger
one on a tie.
-/

namespace HybridStorage.Binary64

open Text

/-- The decimal number `digits * 10 ^ exponent`. -/
structure Decimal where
  digits : Nat
  exponent : Int

/-- The real numbers that round to a double, in quarters of `1 / scale`. -/
structure Neighbourhood where
  low : Nat
  centre : Nat
  high : Nat
  scale : Nat
  closed : Bool

/-- The neighbourhood of a positive double. Its lower half is narrower at a power of two. -/
def Magnitude.neighbourhood (x : Magnitude) : Neighbourhood :=
  let unit := 1 <<< x.exponent.toNat
  let below := if x.mantissa = hiddenBit ∧ -1074 < x.exponent then unit else 2 * unit
  { low := 4 * x.numerator - below
    centre := 4 * x.numerator
    high := 4 * x.numerator + 2 * unit
    scale := 4 * x.denominator
    closed := x.mantissa % 2 = 0 }

/-- The number of digits before the decimal point of `numerator / denominator`; zero and less for
numbers below one. -/
def integerDigits (numerator denominator : Nat) : Int :=
  if denominator ≤ numerator then (Text.digits (numerator / denominator)).length
  else leadingZeros 400 numerator
where
  leadingZeros : Nat → Nat → Int
    | 0, _ => 0
    | room + 1, n => if denominator ≤ n * 10 then 0 else leadingZeros room (n * 10) - 1

/-- The decimal numbers with `count` significant digits on either side of the centre that lie in the
neighbourhood, the nearer one first. -/
def Neighbourhood.candidate? (n : Neighbourhood) (leading : Int) (count : Nat) : Option Decimal :=
  let exponent := leading - count
  let up := n.scale * Nat.pow 10 exponent.toNat
  let down := Nat.pow 10 (-exponent).toNat
  let inside (digits : Nat) : Bool :=
    if n.closed then n.low * down ≤ digits * up ∧ digits * up ≤ n.high * down
    else n.low * down < digits * up ∧ digits * up < n.high * down
  let floor := n.centre * down / up
  let nearerBelow : Bool := 2 * (n.centre * down) < (2 * floor + 1) * up
  match inside floor, inside (floor + 1) with
  | true, true => some ⟨if nearerBelow then floor else floor + 1, exponent⟩
  | true, false => some ⟨floor, exponent⟩
  | false, true => some ⟨floor + 1, exponent⟩
  | false, false => none

/-- The shortest decimal number that identifies a positive double. Seventeen digits always do. -/
def Magnitude.shortest (x : Magnitude) : Decimal :=
  let n := x.neighbourhood
  let leading := integerDigits n.centre n.scale
  ((List.range 17).findSome? fun i => n.candidate? leading (i + 1)).getD ⟨0, 0⟩

/-- Drops zeros behind the decimal point. -/
def Decimal.trim (room : Nat) (d : Decimal) : Decimal :=
  match room with
  | 0 => d
  | room + 1 =>
    if d.exponent < 0 ∧ d.digits % 10 = 0 then trim room ⟨d.digits / 10, d.exponent + 1⟩ else d

/-- Positional notation, without a point for whole numbers. -/
def Decimal.text (d : Decimal) : List Char :=
  let d := d.trim 20
  let digits := Text.digits d.digits
  if 0 ≤ d.exponent then digits ++ List.replicate d.exponent.toNat '0'
  else
    let places := (-d.exponent).toNat
    let digits := List.replicate (places + 1 - digits.length) '0' ++ digits
    digits.take (digits.length - places) ++ '.' :: digits.drop (digits.length - places)

/-- The shortest positional text; a zero keeps its sign. -/
def text (x : Binary64) : String :=
  match x.value with
  | .nan => "NaN"
  | .infinite negative => if negative then "-inf" else "inf"
  | .finite negative magnitude =>
    let digits := if magnitude.mantissa = 0 then ['0'] else magnitude.shortest.text
    String.ofList (if negative then '-' :: digits else digits)

end HybridStorage.Binary64
