import HybridStorage.Disk
import HybridStorage.Forecast.Table

/-!
# Forecast stores

A store answers which value a forecast file has for an instant. It keeps the row it found last, and
reads the file again only when that row does not cover the instant. A file that cannot be read
counts as empty.
-/

namespace HybridStorage.Forecast

open Text

structure Store where
  path : String
  /-- Negative values are allowed. -/
  signed : Bool
  cached : Option Row := none
  deriving DecidableEq, Repr

/-- The answer of a store, the store after it, and what a reading of the file skipped. -/
structure Lookup where
  value : Option Int32
  store : Store
  skipped : List Skipped

namespace Store

def table (s : Store) (disk : Disk) : Table :=
  match disk s.path with
  | .ok content => Table.read s.signed (Symbol.ofBytes content)
  | .error fault => .ofFault fault

/-- The row kept from the last look-up, if it covers the instant. -/
def hit? (s : Store) (now : Instant) : Option Row := s.cached.filter (·.contains now)

def lookup (s : Store) (disk : Disk) (now : Instant) : Lookup :=
  match s.hit? now with
  | some row => ⟨some row.value, s, []⟩
  | none =>
    let table := s.table disk
    let found := table.find? now
    ⟨found.map (·.value), { s with cached := found }, table.skipped⟩

end Store

end HybridStorage.Forecast
