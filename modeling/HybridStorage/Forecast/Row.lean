import HybridStorage.Delimited.Reader
import HybridStorage.Disk
import HybridStorage.Time.Parse

/-!
# Forecast rows

A row of a forecast holds a value for a closed interval of time. `Row.ofRecord` reads it from the
first three fields of a record, and `RowError` says why a record is no row.
-/

namespace HybridStorage.Forecast

open Text Delimited

/-- A value for the time from `start` to `finish`, both included. -/
structure Row where
  start : Instant
  finish : Instant
  value : Int32
  deriving DecidableEq, Repr

def Row.contains (r : Row) (now : Instant) : Bool := r.start ≤ now ∧ now ≤ r.finish

inductive Column where
  | start
  | finish
  | value
  deriving DecidableEq, Repr

def Column.name : Column → String
  | .start => "start"
  | .finish => "end"
  | .value => "value"

inductive RowError where
  | missing (column : Column)
  | timestamp (column : Column) (raw : List Char)
  /-- The interval does not end after its start. -/
  | inverted (start finish : List Char)
  | badValue (raw : List Char) (problem : IntegerProblem)
  /-- A negative value where only others are allowed. -/
  | negative (value : Int32)
  | notText
  /-- There is no record, because the file cannot be read on. -/
  | unreadable (fault : FileFault)
  deriving DecidableEq, Repr

/-- The text of an error; a record that is not text has none of its own. -/
def RowError.message? : RowError → Option String
  | .missing column => some ("missing `" ++ column.name ++ "` column")
  | .timestamp column raw =>
    some ("invalid " ++ column.name ++ " timestamp `" ++ String.ofList raw ++ "`")
  | .inverted start finish =>
    some ("interval end " ++ String.ofList finish ++ " is not after start " ++ String.ofList start)
  | .badValue raw problem =>
    some ("invalid value `" ++ String.ofList raw ++ "`: " ++ problem.message)
  | .negative value => some ("negative value " ++ Text.ofInt value.toInt)
  | .notText => none
  | .unreadable fault => some fault.message

namespace Row

def readTimestamp (column : Column) (raw : List Char) : Except RowError Instant :=
  match Instant.parse? .forecast raw with
  | some t => .ok t
  | none => .error (.timestamp column raw)

def readValue (signed : Bool) (raw : List Char) : Except RowError Int32 :=
  match readInt32 raw with
  | .error problem => .error (.badValue raw problem)
  | .ok value => if value < 0 ∧ !signed then .error (.negative value) else .ok value

/-- Reads a row from trimmed fields; further fields do not matter. -/
def ofFields (signed : Bool) : List (List Char) → Except RowError Row
  | [] => .error (.missing .start)
  | [_] => .error (.missing .finish)
  | [_, _] => .error (.missing .value)
  | startText :: finishText :: valueText :: _ => do
    let start ← readTimestamp .start startText
    let finish ← readTimestamp .finish finishText
    if finish ≤ start then .error (.inverted startText finishText)
    else
      let value ← readValue signed valueText
      pure ⟨start, finish, value⟩

/-- Reads a row from a record. Blanks around a field do not belong to it. -/
def ofRecord (signed : Bool) (record : RawRecord) : Except RowError Row :=
  match record.mapM ofSymbols? with
  | some fields => ofFields signed (fields.map trim)
  | none => .error .notText

end Row

end HybridStorage.Forecast
