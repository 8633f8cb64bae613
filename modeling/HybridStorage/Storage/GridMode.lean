/-!
# Grid modes

Whether a unit is connected to the public grid, and the mode that several units share.
-/

namespace HybridStorage

inductive GridMode where
  | onGrid
  | offGrid
  | undefined
  deriving DecidableEq, Repr

namespace GridMode

def name : GridMode → String
  | .onGrid => "on_grid"
  | .offGrid => "off_grid"
  | .undefined => "undefined"

def ofName? : String → Option GridMode
  | "on_grid" => some .onGrid
  | "off_grid" => some .offGrid
  | "undefined" => some .undefined
  | _ => none

/-- The common mode of two units. -/
def meet (a b : GridMode) : GridMode := if a = b then a else .undefined

/-- The common mode of several units; undefined for none. -/
def combine : List GridMode → GridMode
  | [] => .undefined
  | mode :: modes => modes.foldl meet mode

end GridMode

end HybridStorage
