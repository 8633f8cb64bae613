import HybridStorage.Storage.Unit

/-!
# Charge areas

A unit's stored energy is RED below half the site's reserve, GREEN above half the unit's capacity
and ORANGE in between. Areas are ordered from most to least urgent.
-/

namespace HybridStorage

inductive ChargeArea where
  | red
  | orange
  | green
  deriving DecidableEq, Repr

namespace ChargeArea

def name : ChargeArea → String
  | .red => "RED"
  | .orange => "ORANGE"
  | .green => "GREEN"

def index : ChargeArea → Nat
  | .red => 0
  | .orange => 1
  | .green => 2

instance : LE ChargeArea := ⟨fun a b => a.index ≤ b.index⟩
instance (a b : ChargeArea) : Decidable (a ≤ b) := inferInstanceAs (Decidable (a.index ≤ b.index))
instance : Ord ChargeArea := ⟨fun a b => compare a.index b.index⟩

/-- The area of a stored energy, for a reserve and a capacity in the same unit. Half the reserve is
ORANGE, and so is half the capacity. -/
def classify (stored reserve capacity : Energy) : Checked ChargeArea := do
  let twice ← Energy.exact (2 * stored)
  pure (if twice < reserve then .red else if twice ≤ capacity then .orange else .green)

def ofUnit {α : Type} [StorageUnit α] (reserve : Energy) (u : α) : Except Stop ChargeArea := do
  let capacity ← StorageUnit.requireCapacity u
  let stored ← StorageUnit.storedEnergy u
  (classify stored reserve capacity.toInt).orStop

end ChargeArea

end HybridStorage
