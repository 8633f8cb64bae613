import HybridStorage.Binary64.Basic
import HybridStorage.Dispatch.Error

/-!
# Shares

A share is a double in `[0, 1]`: the part of the required power that the main unit is asked for. The
product is rounded to a double and its fraction dropped; the support unit gets the rest, so nothing
of the required power is lost.
-/

namespace HybridStorage

/-- The double is a number from 0 to 1. -/
def Binary64.inUnitInterval (x : Binary64) : Bool :=
  match x.value with
  | .finite negative magnitude =>
    magnitude.mantissa = 0 ∨ (!negative ∧ magnitude.numerator ≤ magnitude.denominator)
  | _ => false

structure Share where
  value : Binary64
  inUnitInterval : value.inUnitInterval = true
  deriving DecidableEq, Repr

namespace Share

/-- Accepts a number from 0 to 1. Any other is rejected, never clamped. -/
def ofBinary64 (x : Binary64) : Except DispatchError Share :=
  if h : x.inUnitInterval = true then .ok ⟨x, h⟩ else .error (.invalidShare x)

def all : Share := ⟨.ofNat 1, by decide⟩

def magnitude (s : Share) : Binary64.Magnitude :=
  match s.value.value with
  | .finite _ magnitude => magnitude
  | _ => ⟨0, 0⟩

/-- The share of a required power, rounded to a double and truncated. -/
def ofRequired (s : Share) (required : Watts) : Int :=
  let size := (Binary64.nearest (s.magnitude.numerator * required.toInt.natAbs)
    s.magnitude.denominator).floor
  if required.toInt < 0 then -size else size

def split (s : Share) (required : Watts) : Checked (Watts × Watts) := do
  let main := Reading.saturate (s.ofRequired required)
  let support ← Reading.sub required main
  pure (main, support)

end Share

end HybridStorage
