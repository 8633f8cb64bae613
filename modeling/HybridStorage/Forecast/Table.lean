import HybridStorage.Forecast.Row

/-!
# Forecast tables

A forecast file is a header record and then one row per record. A record that is no row is skipped,
with its line and the reason, and the others are kept in their order.
-/

namespace HybridStorage.Forecast

open Text Delimited

/-- A record that is no row. Lines count records, the header being line 1. -/
structure Skipped where
  line : Nat
  error : RowError
  deriving DecidableEq, Repr

structure Table where
  rows : List Row
  skipped : List Skipped
  deriving DecidableEq, Repr

/-- Sorts records into rows and skipped ones, the first record being on the line given. -/
def Table.ofRecords (signed : Bool) (line : Nat) : List RawRecord → Table
  | [] => ⟨[], []⟩
  | record :: rest =>
    let table := ofRecords signed (line + 1) rest
    match Row.ofRecord signed record with
    | .ok row => { table with rows := row :: table.rows }
    | .error error => { table with skipped := ⟨line, error⟩ :: table.skipped }

/-- Reads a whole file, which may not be text. -/
def Table.read (signed : Bool) (symbols : List Symbol) : Table :=
  ofRecords signed 2 (Delimited.read symbols).tail

/-- The table of a file with a fault. One that opens but cannot be read fails at its first record.
-/
def Table.ofFault (fault : FileFault) : Table :=
  ⟨[], if fault.isOfReading then [⟨2, .unreadable fault⟩] else []⟩

def Table.find? (t : Table) (now : Instant) : Option Row := t.rows.find? (·.contains now)

end HybridStorage.Forecast
