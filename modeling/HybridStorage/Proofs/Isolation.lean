import HybridStorage.Proofs.ForecastFile
import HybridStorage.Proofs.Quotes

/-!
# Lines of a forecast file on their own

Whether a line of a forecast file is a row should be up to that line. It is in every file whose
header is a record and in which no line but the last one leaves a quote open. Both conditions are
needed: what stands behind an open quote is lost until the next quote.
-/

namespace HybridStorage.Forecast

open Text Delimited

/-- A header and lines of any content behind it. -/
def rawFile (header : RawHeader) (lines : List RawLine) : ByteArray :=
  (header.bytes ++ lines.flatMap RawLine.written).toByteArray

def rowsUnder (signed : Bool) (header : RawHeader) (lines : List RawLine) : List Row :=
  (Table.read signed (Symbol.ofBytes (rawFile header lines))).rows

/-- The file has the rows of its lines, each put under the header alone. -/
def Isolated (signed : Bool) (header : RawHeader) (lines : List RawLine) : Prop :=
  rowsUnder signed header lines = lines.flatMap fun line => rowsUnder signed header [line]

def rowsOf (signed : Bool) (records : List RawRecord) : List Row :=
  records.filterMap fun record => (Row.ofRecord signed record).toOption

theorem rowsUnder_eq (signed : Bool) (header : RawHeader) (lines : List RawLine) :
    rowsUnder signed header lines = rowsOf signed (header.recordsUnder lines) :=
  Table.rows_ofRecords signed 2 _

theorem length_rowsOf_le (signed : Bool) (records : List RawRecord) :
    (rowsOf signed records).length ≤ records.length :=
  List.length_filterMap_le _ _

section

variable {signed : Bool} {header : RawHeader}

theorem rowsUnder_singleton (sound : header.Sound) (line : RawLine) :
    rowsUnder signed header [line] = rowsOf signed line.records := by
  rw [rowsUnder_eq, sound.recordsUnder, readFrom_rawLines (List.forall_mem_nil _),
    List.flatMap_singleton]

theorem isolated_of_closes (sound : header.Sound) {lines : List RawLine}
    (closes : ∀ line ∈ lines.dropLast, line.Closes) : Isolated signed header lines := by
  rw [Isolated, rowsUnder_eq, sound.recordsUnder, readFrom_rawLines closes, rowsOf,
    List.filterMap_flatMap]
  exact congrArg (fun rows => lines.flatMap rows)
    (funext fun line => (rowsUnder_singleton sound line).symm)

end

/-! ### Rows that an open quote takes away -/

/-- The hour from nine to ten, in a file with negative values or without. -/
def hour (signed : Bool) : WrittenRow signed where
  row := nineToTen.row
  valid := ⟨by decide, fun _ => by decide⟩
  startPrecision := nineToTen.startPrecision
  startHolds := nineToTen.startHolds
  finishPrecision := nineToTen.finishPrecision
  finishHolds := nineToTen.finishHolds
  startMargins := nineToTen.startMargins
  finishMargins := nineToTen.finishMargins
  valueMargins := nineToTen.valueMargins

def hourLine (signed : Bool) : RawLine :=
  ⟨.lf, (hour signed).bytes, (hour signed).plain.unbrokenBytes⟩

theorem hourLine_plain (signed : Bool) : PlainBytes (hourLine signed).bytes := (hour signed).plain

theorem rowsOf_hourLine (signed : Bool) :
    rowsOf signed (hourLine signed).records = [nineToTen.row] := by
  have some : (hourLine signed).bytes ≠ [] := by cases signed <;> decide +kernel
  have row : Row.ofRecord signed (lineFields (hourLine signed).symbols) = .ok nineToTen.row :=
    (hour signed).ofRecord_bytes
  rw [RawLine.records_of_plain (hourLine_plain signed) some, rowsOf, List.filterMap_cons, row]
  rfl

def lateQuote : RawLine where
  lineBreak := .lf
  bytes := "x\"".toList.flatMap String.utf8EncodeChar
  unbroken := UnbrokenBytes.of_all (by decide)

theorem symbols_lateQuote : lateQuote.symbols = [.char 'x', .char '"'] :=
  Symbol.ofList_chars "x\"".toList

theorem closes_lateQuote : lateQuote.Closes := by
  rw [RawLine.Closes, symbols_lateQuote]
  decide

variable {signed : Bool} {header : RawHeader}

/-- The quote that a header leaves open ends in the next line, so that the row behind it is read. -/
theorem not_isolated_of_not_sound (unsound : ¬header.Sound) :
    ¬Isolated signed header [lateQuote, hourLine signed] := by
  intro isolated
  have none : ∀ line, rowsUnder signed header [line] = [] := fun line => by
    rw [rowsUnder_eq, RawHeader.recordsUnder_of_not_sound unsound]
    rfl
  have some : lateQuote.symbols ≠ [] := by
    rw [symbols_lateQuote]
    exact List.cons_ne_nil _ _
  have ended : lateQuote.symbols.foldl Mode.after .quoted ≠ .quoted := by
    rw [symbols_lateQuote]
    decide
  rw [Isolated, rowsUnder_eq, RawHeader.recordsUnder_of_not_sound_cons unsound some closes_lateQuote
    ended, rowsOf_hourLine, List.flatMap_cons, none, List.flatMap_singleton, none] at isolated
  cases isolated

/-- Of two rows behind an open quote at most one is left. -/
theorem not_isolated_of_open (sound : header.Sound) {line : RawLine} (open_ : ¬line.Closes) :
    ¬Isolated signed header [line, hourLine signed, hourLine signed] := by
  intro isolated
  have hours : [hourLine signed, hourLine signed].flatMap
      (fun line => rowsUnder signed header [line]) = [nineToTen.row, nineToTen.row] := by
    rw [List.flatMap_cons, List.flatMap_singleton, rowsUnder_singleton sound, rowsOf_hourLine]
    rfl
  have unquoted : ∀ s ∈ [hourLine signed, hourLine signed].flatMap RawLine.writtenSymbols,
      s ≠ .char '"' := by
    intro s member
    obtain ⟨other, within, behind⟩ := List.mem_flatMap.mp member
    obtain rfl : other = hourLine signed := by simpa using within
    rcases List.mem_append.mp behind with breaks | inside
    · rw [List.mem_singleton.mp breaks]
      decide
    · exact ((hourLine_plain signed).unquoted s inside).1
  have one : (header.recordsUnder [line, hourLine signed, hourLine signed]).length = 1 := by
    rw [sound.recordsUnder, List.flatMap_cons]
    exact length_readFrom_open open_ unquoted
  have rows := length_rowsOf_le signed
    (header.recordsUnder [line, hourLine signed, hourLine signed])
  rw [← rowsUnder_eq, isolated, List.flatMap_cons, hours, List.length_append, one] at rows
  simp at rows

/-- Under a header that is a record and closes its quotes, and under no other, every file is read
line by line in which no line but the last one leaves a quote open; and no line may do so without
costing others their rows. -/
theorem lines_isolated_iff (signed : Bool) (header : RawHeader) :
    ((∀ lines : List RawLine, (∀ line ∈ lines.dropLast, line.Closes) →
        Isolated signed header lines) ↔ header.Sound) ∧
      (header.Sound → ∀ line : RawLine,
        (∀ others : List RawLine, (∀ other ∈ others, other.Closes) →
          Isolated signed header (line :: others)) ↔ line.Closes) := by
  refine ⟨⟨fun isolated => ?_, fun sound lines => isolated_of_closes sound⟩,
    fun sound line => ⟨fun isolated => ?_, fun closes others others_close => ?_⟩⟩
  · by_cases sound : header.Sound
    · exact sound
    · refine absurd (isolated [lateQuote, hourLine signed] ?_) (not_isolated_of_not_sound sound)
      exact List.forall_mem_singleton.mpr closes_lateQuote
  · by_cases closes : line.Closes
    · exact closes
    · refine absurd (isolated [hourLine signed, hourLine signed] ?_)
        (not_isolated_of_open sound closes)
      intro other member
      obtain rfl : other = hourLine signed := by simpa using member
      exact RawLine.closes_of_plain (hourLine_plain signed)
  · refine isolated_of_closes sound fun other member => ?_
    rcases List.mem_cons.mp (List.dropLast_subset _ member) with rfl | member
    · exact closes
    · exact others_close other member

def columns : RawHeader := ⟨columnNames.bytes, columnNames.plain.unbrokenBytes⟩

theorem sound_columns : columns.Sound := by
  have symbols : columns.symbols = "start,end,value".toList.map .char :=
    congrArg withoutMark (Symbol.ofList_chars _)
  constructor <;> (rw [symbols]; decide)

def closedQuote : RawLine where
  lineBreak := .crlf
  bytes := "\"no, forecast\",0".toList.flatMap String.utf8EncodeChar
  unbroken := UnbrokenBytes.of_all (by decide)

theorem lines_isolated_iff_closedQuote :
    columns.Sound ∧ closedQuote.Closes ∧
      Isolated false columns [closedQuote, hourLine false, lateQuote] := by
  have closes : closedQuote.Closes := by
    have symbols : closedQuote.symbols = "\"no, forecast\",0".toList.map .char :=
      Symbol.ofList_chars _
    rw [RawLine.Closes, symbols]
    decide
  refine ⟨sound_columns, closes,
    ((lines_isolated_iff false columns).2 sound_columns closedQuote).mpr closes _ ?_⟩
  exact List.forall_mem_cons.mpr ⟨RawLine.closes_of_plain (hourLine_plain false),
    List.forall_mem_singleton.mpr closes_lateQuote⟩

/-- A line that leaves a quote open. -/
def openQuote : RawLine where
  lineBreak := .lf
  bytes := "\"oops".toList.flatMap String.utf8EncodeChar
  unbroken := UnbrokenBytes.of_all (by decide)

/-- The row behind the open quote is lost, and by itself it is one. -/
theorem lines_not_always_isolated : ¬∀ (signed : Bool) (header : RawHeader)
    (lines : List RawLine), Isolated signed header lines := by
  intro always
  have isolated : rowsUnder false columns [openQuote, hourLine false] =
      [openQuote, hourLine false].flatMap fun line => rowsUnder false columns [line] :=
    always false columns [openQuote, hourLine false]
  revert isolated
  decide +kernel

end HybridStorage.Forecast
