import HybridStorage.Storage.Unit

/-!
# Plants

`Plant` is what a controller needs of the place it controls: the reading of a grid meter, and two
units that it can look up and put back.
-/

namespace HybridStorage

class Plant (σ : Type) (α : outParam Type) where
  /-- Power at a meter, positive when drawn from the grid. -/
  meterPower : σ → String → Except DispatchError (Option Watts)
  /-- The two units with the identifiers given. -/
  unitPair : σ → String → String → Except DispatchError (α × α)
  /-- Puts the two units back under these identifiers. -/
  putPair : σ → String → String → α × α → σ

end HybridStorage
