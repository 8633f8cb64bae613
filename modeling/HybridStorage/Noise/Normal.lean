import HybridStorage.Noise.ChaCha

/-!
# Normal noise

Normally distributed noise from two uniform numbers of a generator, by the Box–Muller transform.
-/

namespace HybridStorage.Noise

open ChaCha

def pi : Float := 3.141592653589793

/-- The larger of the two; a NaN counts as absent. -/
def atLeastZero (x : Float) : Float := if x > 0.0 then x else 0.0

/-- A number in `[0, 1)` from the 53 highest bits of a word. -/
def uniform (g : Generator) : Float × Generator :=
  let (word, g) := g.next
  ((word >>> 11).toFloat / 9007199254740992.0, g)

/-- Keeps a logarithm of it finite. -/
def awayFromZero (x : Float) : Float := if x < 1e-9 then 1e-9 else x

/-- Noise of a standard deviation. For none, or a negative one, the generator is not asked. -/
def normal (deviation : Float) (g : Generator) : Float × Generator :=
  if deviation ≤ 0.0 then (0.0, g)
  else
    let (first, g) := uniform g
    let (second, g) := uniform g
    let radius := Float.sqrt (-2.0 * Float.log (awayFromZero first))
    (radius * Float.cos (2.0 * pi * second) * deviation, g)

end HybridStorage.Noise
