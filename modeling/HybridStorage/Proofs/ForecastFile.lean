import HybridStorage.Forecast.Table
import HybridStorage.Proofs.Lines
import HybridStorage.Proofs.Staleness
import HybridStorage.Proofs.Timestamps

/-!
# Forecast files read back

A file is written line by line: a header, and then rows, each timestamp to any precision that holds
it and each field between blanks, with other lines among them that are no rows. `rows_read_written`
finds exactly the written rows in it, in their order.
-/

namespace HybridStorage

open Text

/-! ### Fields between blanks -/

namespace Text

/-- A character of the fields that are written: neither blank, comma nor quote. -/
def isSolid (c : Char) : Bool := !isBlank c && c != ',' && c != '"'

theorem isSolid_iff {c : Char} : isSolid c = true ↔ isBlank c = false ∧ c ≠ ',' ∧ c ≠ '"' := by
  simp [isSolid, and_assoc]

theorem isSolid_of_isDigit {c : Char} (h : isDigit c = true) : isSolid c = true := by
  refine isSolid_iff.mpr ⟨isBlank_of_isDigit h, ?_, ?_⟩
  · rintro rfl
    exact absurd h (by decide)
  · rintro rfl
    exact absurd h (by decide)

@[simp]
theorem all_isSolid_padded (width n : Nat) : (padded width n).all isSolid = true :=
  List.all_eq_true.mpr fun _ member => isSolid_of_isDigit (isDigit_of_mem_padded member)

@[simp]
theorem all_isSolid_digits (n : Nat) : (digits n).all isSolid = true :=
  List.all_eq_true.mpr fun _ member => isSolid_of_isDigit (isDigit_of_mem_digits member)

theorem all_isSolid_signed (n : Int) : (signed n).all isSolid = true := by
  unfold signed
  split
  · rw [List.all_cons, all_isSolid_digits]
    decide
  · exact all_isSolid_digits _

theorem signed_ne_nil (n : Int) : signed n ≠ [] := by
  unfold signed
  split
  · exact List.cons_ne_nil _ _
  · exact digits_ne_nil _

end Text

theorem Date.all_isSolid_text (d : Date) : d.text.all isSolid = true := by
  have mark : isSolid '-' = true := by decide
  have sign : isSolid '+' = true := by decide
  unfold text yearText
  split
  · simp [mark]
  · split <;> simp [mark, sign]

theorem Precision.all_isSolid_write (p : Precision) (t : Instant) :
    (p.write t).all isSolid = true := by
  have colon : isSolid ':' = true := by decide
  have point : isSolid '.' = true := by decide
  have letter : isSolid 'T' = true := by decide
  cases p <;> simp [write, tail, Instant.minuteText, Instant.secondText, t.date.all_isSolid_text,
    colon, point, letter]

theorem Precision.write_ne_nil (p : Precision) (t : Instant) : p.write t ≠ [] := by
  simp [write]

namespace Forecast

open Delimited

/-- Blanks that end no line. -/
structure Blanks where
  text : List Char
  blank : ∀ c ∈ text, isBlank c = true ∧ c ≠ '\n' ∧ c ≠ '\r'

def Blanks.none : Blanks := ⟨[], List.forall_mem_nil _⟩

structure Margins where
  before : Blanks
  after : Blanks

structure Field where
  margins : Margins
  text : List Char
  some : text ≠ []
  solid : text.all isSolid = true

namespace Field

def written (f : Field) : List Char := f.margins.before.text ++ (f.text ++ f.margins.after.text)

theorem trim_written (f : Field) : trim f.written = f.text := by
  -- The field has a solid character at both ends, and what is trimmed behind it is trimmed in front
  -- of its reverse.
  have before : ∀ c ∈ f.margins.before.text, isBlank c = true := fun c member =>
    (f.margins.before.blank c member).1
  have after : ∀ c ∈ f.margins.after.text.reverse, isBlank c = true := fun c member =>
    (f.margins.after.blank c (List.mem_reverse.mp member)).1
  have solid : ∀ c ∈ f.text, isBlank c = false := fun c member =>
    (isSolid_iff.mp (List.all_eq_true.mp f.solid c member)).1
  have reversed : ∀ c ∈ f.text.reverse, isBlank c = false := fun c member =>
    solid c (List.mem_reverse.mp member)
  have front := trimStart_append before f.some solid f.margins.after.text
  have back := trimStart_append after (List.reverse_ne_nil_iff.mpr f.some) reversed []
  rw [List.append_nil, ← List.reverse_append] at back
  rw [trim, written, front, back, List.reverse_reverse]

theorem inside_written (f : Field) :
    ∀ c ∈ f.written, (c ≠ '\n' ∧ c ≠ '\r' ∧ c ≠ '"') ∧ c ≠ ',' := by
  intro c member
  have kinds : (isBlank c = true ∧ c ≠ '\n' ∧ c ≠ '\r') ∨ isSolid c = true := by
    rcases List.mem_append.mp member with before | member
    · exact .inl (f.margins.before.blank c before)
    · rcases List.mem_append.mp member with inner | after
      · exact .inr (List.all_eq_true.mp f.solid c inner)
      · exact .inl (f.margins.after.blank c after)
  -- A quote and a comma are not blank, and a break is not solid.
  rcases kinds with ⟨blank, feed, back⟩ | full
  · refine ⟨⟨feed, back, ?_⟩, ?_⟩ <;> · rintro rfl; exact absurd blank (by decide)
  · obtain ⟨full, comma, quote⟩ := isSolid_iff.mp full
    refine ⟨⟨?_, ?_, quote⟩, comma⟩ <;> · rintro rfl; exact absurd full (by decide)

theorem comma_not_mem (f : Field) : Symbol.char ',' ∉ f.written.map .char := by
  intro member
  obtain ⟨c, within, same⟩ := List.mem_map.mp member
  cases same
  exact absurd rfl (f.inside_written ',' within).2

def joined (fields : List Field) : List Char := [','].intercalate (fields.map written)

theorem inside_joined : ∀ fields : List Field,
    ∀ c ∈ joined fields, c ≠ '\n' ∧ c ≠ '\r' ∧ c ≠ '"'
  | [], _, member => absurd member List.not_mem_nil
  | [f], c, member => by
    rw [joined, List.map_singleton, List.intercalate_singleton] at member
    exact (f.inside_written c member).1
  | f :: g :: rest, c, member => by
    rw [joined, List.map_cons, List.map_cons, List.intercalate_cons_cons] at member
    rcases List.mem_append.mp member with first | others
    · rcases List.mem_append.mp first with own | comma
      · exact (f.inside_written c own).1
      · rw [List.mem_singleton.mp comma]
        decide
    · exact inside_joined (g :: rest) c others

theorem lineFields_joined : ∀ {fields : List Field}, fields ≠ [] →
    lineFields ((joined fields).map .char) = (fields.map written).map (List.map .char)
  | [f], _ => by
    rw [joined, List.map_singleton, List.intercalate_singleton]
    exact List.splitOn_eq_singleton f.comma_not_mem
  | f :: g :: rest, _ => by
    have others := lineFields_joined (List.cons_ne_nil g rest)
    rw [joined, List.map_cons, List.map_cons, List.intercalate_cons_cons, List.map_append,
      List.map_append, List.append_assoc, lineFields]
    exact (List.splitOn_append_cons_self_of_not_mem f.comma_not_mem _).trans
      (congrArg (f.written.map .char :: ·) others)

theorem ofRecord_joined (signed : Bool) {fields : List Field} (some : fields ≠ []) :
    Row.ofRecord signed (lineFields ((joined fields).map .char)) =
      Row.ofFields signed (fields.map text) := by
  have trimmed : (fields.map written).map trim = fields.map text := by
    rw [List.map_map]
    exact List.map_congr_left fun f _ => f.trim_written
  rw [Row.ofRecord, lineFields_joined some, mapM_ofSymbols?]
  exact congrArg (Row.ofFields signed) trimmed

end Field

/-! ### Rows as lines -/

/-- A row, and the way it is written. -/
structure WrittenRow (signed : Bool) where
  row : Row
  valid : row.Valid signed
  startPrecision : Precision
  startHolds : startPrecision.Holds row.start
  finishPrecision : Precision
  finishHolds : finishPrecision.Holds row.finish
  startMargins : Margins
  finishMargins : Margins
  valueMargins : Margins

namespace WrittenRow

variable {signed : Bool} (w : WrittenRow signed)

def startField : Field where
  margins := w.startMargins
  text := w.startPrecision.write w.row.start
  some := w.startPrecision.write_ne_nil _
  solid := w.startPrecision.all_isSolid_write _

def finishField : Field where
  margins := w.finishMargins
  text := w.finishPrecision.write w.row.finish
  some := w.finishPrecision.write_ne_nil _
  solid := w.finishPrecision.all_isSolid_write _

def valueField : Field where
  margins := w.valueMargins
  text := Text.signed w.row.value.toInt
  some := signed_ne_nil _
  solid := all_isSolid_signed _

def fields : List Field := [w.startField, w.finishField, w.valueField]

def bytes : List UInt8 := (Field.joined w.fields).flatMap String.utf8EncodeChar

theorem plain : PlainBytes w.bytes := PlainBytes.of_text (Field.inside_joined w.fields)

theorem ofFields_fields : Row.ofFields signed (w.fields.map Field.text) = .ok w.row := by
  obtain ⟨ordered, nonneg⟩ := w.valid
  have start : Row.readTimestamp .start w.startField.text = .ok w.row.start := by
    rw [Row.readTimestamp, startField, Instant.parse?_write w.startHolds]
  have finish : Row.readTimestamp .finish w.finishField.text = .ok w.row.finish := by
    rw [Row.readTimestamp, finishField, Instant.parse?_write w.finishHolds]
  have value : Row.readValue signed w.valueField.text = .ok w.row.value := by
    rw [Row.readValue, valueField, readInt32_signed]
    refine if_neg ?_
    rintro ⟨negative, unsigned⟩
    exact Int32.not_lt.mpr (nonneg (by simpa using unsigned)) negative
  have later : ¬w.row.finish ≤ w.row.start := Int.not_le.mpr ordered
  simp only [fields, List.map_cons, List.map_nil, Row.ofFields, start, finish, value, if_neg later,
    bind, Except.bind, pure, Except.pure]

theorem ofRecord_bytes :
    Row.ofRecord signed (lineFields (Symbol.ofList w.bytes)) = .ok w.row := by
  have some : w.fields ≠ [] := List.cons_ne_nil _ _
  rw [bytes, Symbol.ofList_chars, Field.ofRecord_joined signed some, ofFields_fields]

end WrittenRow

/-- A line that is no row. -/
structure OtherLine (signed : Bool) where
  bytes : List UInt8
  plain : PlainBytes bytes
  noRow : ∀ row, Row.ofRecord signed (lineFields (Symbol.ofList bytes)) ≠ .ok row

theorem ofRecord_nil (signed : Bool) :
    Row.ofRecord signed (lineFields (Symbol.ofList [])) = .error (.missing .finish) := by
  rw [Symbol.ofList_nil]
  rfl

def OtherLine.empty (signed : Bool) : OtherLine signed where
  bytes := []
  plain := fun _ member => absurd member List.not_mem_nil
  noRow := by simp [ofRecord_nil]

/-- A line of a file; a break at the end of the file has an empty one behind it. -/
inductive Entry (signed : Bool) where
  | row (written : WrittenRow signed)
  | other (line : OtherLine signed)

namespace Entry

variable {signed : Bool}

def row? : Entry signed → Option Row
  | row w => some w.row
  | other _ => none

def line (lineBreak : LineBreak) : Entry signed → Line
  | row w => ⟨lineBreak, w.bytes, w.plain⟩
  | other l => ⟨lineBreak, l.bytes, l.plain⟩

theorem ofRecord_line (e : Entry signed) (lineBreak : LineBreak) :
    (Row.ofRecord signed (e.line lineBreak).fields).toOption = e.row? := by
  cases e with
  | row w =>
    change (Row.ofRecord signed (lineFields (Symbol.ofList w.bytes))).toOption = some w.row
    rw [w.ofRecord_bytes]
    rfl
  | other l =>
    change (Row.ofRecord signed (lineFields (Symbol.ofList l.bytes))).toOption = none
    cases read : Row.ofRecord signed (lineFields (Symbol.ofList l.bytes)) with
    | error problem => rfl
    | ok row => exact absurd read (l.noRow row)

end Entry

/-! ### Whole files -/

theorem Table.rows_ofRecords (signed : Bool) (line : Nat) (records : List RawRecord) :
    (ofRecords signed line records).rows =
      records.filterMap fun record => (Row.ofRecord signed record).toOption := by
  induction records generalizing line with
  | nil => rfl
  | cons record rest ih =>
    rw [ofRecords, List.filterMap_cons]
    cases Row.ofRecord signed record with
    | ok row => exact congrArg (row :: ·) (ih (line + 1))
    | error problem => exact ih (line + 1)

/-- A header and lines behind it. -/
def file (header : Header) (lines : List Line) : ByteArray :=
  (header.bytes ++ lines.flatMap Line.written).toByteArray

/-- Every line without quotes is a row or none by itself, wherever it stands. -/
theorem Table.rows_read_file (signed : Bool) (header : Header) (lines : List Line) :
    (Table.read signed (Symbol.ofBytes (file header lines))).rows =
      lines.filterMap fun line => (Row.ofRecord signed line.fields).toOption := by
  have records := read_file header lines
  rw [Symbol.ofList] at records
  rw [Table.read, file, records, rows_ofRecords, List.filterMap_map, List.filterMap_filter]
  refine congrArg (fun f => lines.filterMap f) (funext fun line => ?_)
  split
  · rfl
  · next empty =>
    have none : line.bytes = [] := by simpa using empty
    rw [Line.fields, Line.symbols, none, ofRecord_nil]
    rfl

theorem Table.rows_read_written {signed : Bool} (header : Header)
    (entries : List (LineBreak × Entry signed)) :
    (Table.read signed (Symbol.ofBytes
        (file header (entries.map fun (lineBreak, entry) => entry.line lineBreak)))).rows =
      entries.filterMap fun (_, entry) => entry.row? := by
  rw [rows_read_file, List.filterMap_map]
  exact congrArg (fun f => entries.filterMap f)
    (funext fun (lineBreak, entry) => entry.ofRecord_line lineBreak)

def columnNames : Header where
  bytes := "start,end,value".toList.flatMap String.utf8EncodeChar
  plain := PlainBytes.of_all (by decide)
  some := by decide
  notMark := by decide

def ten : Instant :=
  { SimulationSpec.defaultStart with
    second := 36000
    second_lt := by decide
    leap := by decide }

/-- The hour from nine to ten, with a blank in front of its second field. -/
def nineToTen : WrittenRow false where
  row := ⟨SimulationSpec.defaultStart, ten, 150000⟩
  valid := ⟨by decide, fun _ => by decide⟩
  startPrecision := .minutes
  startHolds := ⟨by decide, by decide⟩
  finishPrecision := .fraction 3
  finishHolds := ⟨by decide, by decide, by decide⟩
  startMargins := ⟨.none, .none⟩
  finishMargins := ⟨⟨[' '], List.forall_mem_singleton.mpr (by decide)⟩, .none⟩
  valueMargins := ⟨.none, .none⟩

def remark : OtherLine false where
  bytes := "no, forecast".toList.flatMap String.utf8EncodeChar
  plain := PlainBytes.of_all (by decide)
  noRow := by
    rw [Symbol.ofList_chars]
    rintro row ⟨⟩

theorem Table.rows_read_written_nineToTen :
    (Table.read false (Symbol.ofBytes ("start,end,value\nno, forecast\r\n" ++
      "2022-12-08T09:00, 2022-12-08T10:00:00.000,150000\n").toUTF8)).rows =
        [⟨SimulationSpec.defaultStart, ten, 150000⟩] := by
  have written : file columnNames [Entry.line .lf (.other remark), Entry.line .crlf (.row nineToTen),
      Entry.line .lf (.other (.empty false))] = ("start,end,value\nno, forecast\r\n" ++
        "2022-12-08T09:00, 2022-12-08T10:00:00.000,150000\n").toUTF8 := by
    decide +kernel
  rw [← written]
  exact rows_read_written columnNames
    [(.lf, .other remark), (.crlf, .row nineToTen), (.lf, .other (.empty false))]

end Forecast

end HybridStorage
