import HybridStorage.Text.Blank
import HybridStorage.Text.Decimal
import HybridStorage.Time.Instant

/-!
# Reading instants

A timestamp is `year-month-dayThour:minute`, then optionally `:second` and, after that, a fraction
of any length of which nine digits count. Every number may follow blanks. The year has up to four
digits, or a sign and any number of them; the other numbers have one or two digits. Second 60 is a
leap second. `TimestampStyle` holds the two points on which the places that read timestamps differ.
-/

namespace HybridStorage

open Text

/-- What a place that reads timestamps allows. -/
structure TimestampStyle where
  /-- Seconds may be left out. -/
  optionalSeconds : Bool
  /-- Blanks may stand before each separator and at the end. -/
  blanks : Bool

namespace TimestampStyle

/-- Timestamps of forecast files. -/
def forecast : TimestampStyle := ⟨true, false⟩

/-- The start of a scenario. -/
def scenario : TimestampStyle := ⟨false, true⟩

end TimestampStyle

namespace Instant

/-- A number of at least one and at most `most` digits, after blanks. -/
def readNumber (most : Nat) (cs : List Char) : Option (Nat × List Char) :=
  let cs := trimStart cs
  let run := (cs.take most).takeWhile isDigit
  if run.isEmpty then none else some (natural run, cs.drop run.length)

/-- A year: up to four digits, or a sign and any number of digits. -/
def readYear (cs : List Char) : Option (Int × List Char) :=
  match trimStart cs with
  | '-' :: rest => signed (-1) rest
  | '+' :: rest => signed 1 rest
  | rest => (readNumber 4 rest).map fun (n, rest) => (n, rest)
where
  signed (sign : Int) (cs : List Char) : Option (Int × List Char) :=
    let run := cs.takeWhile isDigit
    if run.isEmpty then none else some (sign * natural run, cs.drop run.length)

/-- A separator. -/
def readMark (style : TimestampStyle) (mark : Char) (cs : List Char) : Option (List Char) :=
  match if style.blanks then trimStart cs else cs with
  | c :: rest => if c = mark then some rest else none
  | [] => none

/-- The nanoseconds of a fraction behind its point; digits after the ninth do not count. -/
def readFraction (cs : List Char) : Option (Nat × List Char) :=
  match cs with
  | '.' :: rest =>
    let run := rest.takeWhile isDigit
    if run.isEmpty then none
    else
      let kept := run.take 9
      some (natural kept * Nat.pow 10 (9 - kept.length), rest.drop run.length)
  | cs => some (0, cs)

/-- The fields of a timestamp as they are written. -/
structure Fields where
  date : Date
  hour : Nat
  minute : Nat
  second : Nat
  fraction : Nat

/-- The instant that the fields name, if there is one. -/
def ofFields (f : Fields) : Option Instant :=
  if f.date.Exists ∧ f.hour < 24 ∧ f.minute < 60 ∧ f.second ≤ 60 then
    let minutes := f.hour * 60 + f.minute
    if f.second = 60 then of? f.date.number (minutes * 60 + 59) (1000000000 + f.fraction)
    else of? f.date.number (minutes * 60 + f.second) f.fraction
  else none

/-- Seconds and fraction behind the minute. -/
def readSeconds (style : TimestampStyle) (cs : List Char) : Option (Nat × Nat × List Char) := do
  let cs ← readMark style ':' cs
  let (second, cs) ← readNumber 2 cs
  let (fraction, cs) ← readFraction cs
  pure (second, fraction, cs)

/-- Reads a whole text as a timestamp. -/
def parse? (style : TimestampStyle) (cs : List Char) : Option Instant := do
  let (year, cs) ← readYear cs
  let cs ← readMark style '-' cs
  let (month, cs) ← readNumber 2 cs
  let cs ← readMark style '-' cs
  let (day, cs) ← readNumber 2 cs
  let cs ← readMark style 'T' cs
  let (hour, cs) ← readNumber 2 cs
  let cs ← readMark style ':' cs
  let (minute, cs) ← readNumber 2 cs
  let (second, fraction, cs) ←
    if style.optionalSeconds ∧ cs = [] then some (0, 0, []) else readSeconds style cs
  let cs := if style.blanks then trimStart cs else cs
  if cs = [] then ofFields ⟨⟨year, month, day⟩, hour, minute, second, fraction⟩ else none

end Instant

end HybridStorage
