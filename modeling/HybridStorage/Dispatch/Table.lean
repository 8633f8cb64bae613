import HybridStorage.Dispatch.Area
import HybridStorage.Dispatch.Share

/-!
# Share tables

The main unit's share depends on the areas of both units and on the direction. In the default table
the unit in the more urgent area is charged first and discharged last.
-/

namespace HybridStorage

structure AreaRow (α : Type) where
  red : α
  orange : α
  green : α
  deriving DecidableEq, Repr

namespace AreaRow

def get {α : Type} (r : AreaRow α) : ChargeArea → α
  | .red => r.red
  | .orange => r.orange
  | .green => r.green

/-- Applies a function that can fail from red to green, up to the first failure. -/
def mapM {α β ε : Type} (f : α → Except ε β) (r : AreaRow α) : Except ε (AreaRow β) := do
  let red ← f r.red
  let orange ← f r.orange
  let green ← f r.green
  pure ⟨red, orange, green⟩

end AreaRow

/-- A value for each pair of areas: a row per area of the support unit, and in it an entry per area
of the main unit. -/
abbrev AreaMatrix (α : Type) := AreaRow (AreaRow α)

structure ShareTable where
  charge : AreaMatrix Share
  discharge : AreaMatrix Share
  deriving DecidableEq, Repr

namespace ShareTable

/-- Accepts matrices of numbers from 0 to 1; otherwise the error names the first other entry, row by
row and the charge matrix first. -/
def ofMatrices (charge discharge : AreaMatrix Binary64) : Except DispatchError ShareTable := do
  let charge ← charge.mapM (·.mapM Share.ofBinary64)
  let discharge ← discharge.mapM (·.mapM Share.ofBinary64)
  pure ⟨charge, discharge⟩

/-- `n` tenths. -/
def tenths (n : Nat) (h : (Binary64.ofQuotient n 10).inUnitInterval = true := by decide) :
    Share := ⟨.ofQuotient n 10, h⟩

def defaultCharge : AreaMatrix Share where
  red := ⟨tenths 5, tenths 3, tenths 0⟩
  orange := ⟨tenths 7, tenths 5, tenths 2⟩
  green := ⟨tenths 10, tenths 8, tenths 5⟩

def defaultDischarge : AreaMatrix Share where
  red := ⟨tenths 5, tenths 8, tenths 10⟩
  orange := ⟨tenths 2, tenths 5, tenths 7⟩
  green := ⟨tenths 0, tenths 3, tenths 5⟩

def default : ShareTable := ⟨defaultCharge, defaultDischarge⟩

def chargeShare (t : ShareTable) (main support : ChargeArea) : Share :=
  (t.charge.get support).get main

def dischargeShare (t : ShareTable) (main support : ChargeArea) : Share :=
  (t.discharge.get support).get main

end ShareTable

end HybridStorage
