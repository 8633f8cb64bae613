import HybridStorage.Text.Decimal
import HybridStorage.Time.Instant

/-!
# Writing instants

Years from 0 to 9999 have four digits, all others a sign and at least four. A leap second is written
as second 60. Fractions of a second are left out.
-/

namespace HybridStorage

open Text

def Date.yearText (year : Int) : List Char :=
  if 0 ≤ year ∧ year ≤ 9999 then padded 4 year.natAbs
  else (if year < 0 then '-' else '+') :: padded 4 year.natAbs

def Date.text (d : Date) : List Char :=
  yearText d.year ++ '-' :: padded 2 d.month ++ '-' :: padded 2 d.day

namespace Instant

def date (t : Instant) : Date := Date.ofNumber t.day

/-- Hour and minute. -/
def minuteText (t : Instant) : List Char :=
  padded 2 (t.second / 3600) ++ ':' :: padded 2 (t.second / 60 % 60)

/-- The second of the minute; 60 within a leap second. -/
def secondText (t : Instant) : List Char := padded 2 (t.second % 60 + t.nano / 1000000000)

/-- Date and time to the second, with a separator between them. -/
def textWith (separator : Char) (t : Instant) : List Char :=
  t.date.text ++ separator :: t.minuteText ++ ':' :: t.secondText

def text (t : Instant) : List Char := t.textWith 'T'

end Instant

end HybridStorage
