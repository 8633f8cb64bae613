import HybridStorage.Text.Utf8

/-!
# Reading comma-separated records

Commas separate fields, and a line feed, a carriage return or both end a record; empty lines are no
records. A field that starts with a quote runs to the next single quote: inside it commas and line
ends are ordinary, and two quotes stand for one. What follows the closing quote belongs to the
field, and a quote elsewhere is an ordinary character. The end of the text ends the last record.
-/

namespace HybridStorage.Delimited

open Text

/-- A field as it is read, and a record. -/
abbrev RawField := List Symbol
abbrev RawRecord := List RawField

/-- Where the reader stands. -/
inductive Mode where
  | start
  | field
  /-- Within an unquoted field, or behind a closing quote. -/
  | plain
  | quoted
  /-- Behind a quote within quotes. -/
  | closing
  deriving DecidableEq, Repr

/-- Reads on from `mode`, with the fields of the present record and the text of the present field
read so far, both reversed. -/
def readFrom : Mode → List RawField → RawField → List Symbol → List RawRecord
  | .start, _, _, [] => []
  | _, fields, text, [] => [(text.reverse :: fields).reverse]
  | .quoted, fields, text, s :: rest =>
    if s = .char '"' then readFrom .closing fields text rest
    else readFrom .quoted fields (s :: text) rest
  | mode, fields, text, s :: rest =>
    if s = .char '"' ∧ (mode = .start ∨ mode = .field) then readFrom .quoted fields text rest
    else if s = .char '"' ∧ mode = .closing then readFrom .quoted fields (s :: text) rest
    else if s = .char ',' then readFrom .field (text.reverse :: fields) [] rest
    else if s = .char '\n' ∨ s = .char '\r' then
      if mode = .start then readFrom .start [] [] rest
      else (text.reverse :: fields).reverse :: readFrom .start [] [] rest
    else readFrom .plain fields (s :: text) rest

/-- All records of a text. A byte order mark at its start is no part of it. -/
def read (symbols : List Symbol) : List RawRecord :=
  match symbols with
  | .char '\ufeff' :: rest => readFrom .start [] [] rest
  | symbols => readFrom .start [] [] symbols

end HybridStorage.Delimited
