import HybridStorage.Binary64.Basic

/-!
# Order of doubles

Comparison of doubles as numbers: `-0` equals `0`, and a NaN compares with nothing, not even with
itself. `rank?` is a double's place in the order, so that comparisons are comparisons of integers.
-/

namespace HybridStorage.Binary64

/-- The place of a double among all that are no NaN. -/
def rank? (x : Binary64) : Option Int :=
  let word := x.bits.toNat
  let size : Int := (word % signBit : Nat)
  if x.isNaN then none else some (if signBit ≤ word then -size else size)

/-- Both are numbers whose places are in the relation. -/
def compareBy (relation : Int → Int → Bool) (a b : Binary64) : Bool :=
  match a.rank?, b.rank? with
  | some m, some n => relation m n
  | _, _ => false

def le : Binary64 → Binary64 → Bool := compareBy (· ≤ ·)

def lt : Binary64 → Binary64 → Bool := compareBy (· < ·)

def within (low high x : Binary64) : Bool := low.le x && x.le high

end HybridStorage.Binary64
