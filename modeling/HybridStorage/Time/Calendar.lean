/-!
# Calendar

Dates of the Gregorian calendar, continued in both directions. `Date.number` counts the days from
1 March of year 0, so that the leap day comes last in a counted year, and `Date.ofNumber` reads
the count back.
-/

namespace HybridStorage

/-- A calendar date. Years before 1 are written 0, -1, … -/
structure Date where
  year : Int
  month : Nat
  day : Nat
  deriving DecidableEq, Repr

namespace Date

def isLeapYear (year : Int) : Bool := year % 4 = 0 ∧ (year % 100 ≠ 0 ∨ year % 400 = 0)

/-- The length of a month, for months from 1 to 12. -/
def daysInMonth (year : Int) (month : Nat) : Nat :=
  if month = 2 then if isLeapYear year then 29 else 28
  else if month = 4 ∨ month = 6 ∨ month = 9 ∨ month = 11 then 30
  else 31

def Exists (d : Date) : Prop :=
  1 ≤ d.month ∧ d.month ≤ 12 ∧ 1 ≤ d.day ∧ d.day ≤ daysInMonth d.year d.month

instance (d : Date) : Decidable d.Exists := by unfold Exists; infer_instance

/-- Days from 1 March of a year to the first of its `month`-th month, March being month 0. -/
def daysBefore (month : Nat) : Nat := (153 * month + 2) / 5

/-- Days since 1 March of year 0. -/
def number (d : Date) : Int :=
  let year := if d.month ≤ 2 then d.year - 1 else d.year
  365 * year + year / 4 - year / 100 + year / 400 + daysBefore ((d.month + 9) % 12) + d.day - 1

/-- The date with a day count. Within each 400 years of 146097 days the year is found first, then
the month, then the day. -/
def ofNumber (n : Int) : Date :=
  let inCycle := (n % 146097).toNat
  let yearInCycle := (inCycle - inCycle / 1460 + inCycle / 36524 - inCycle / 146096) / 365
  let inYear := inCycle - (365 * yearInCycle + yearInCycle / 4 - yearInCycle / 100)
  let month := (5 * inYear + 2) / 153
  let year : Int := 400 * (n / 146097) + yearInCycle
  { year := if month < 10 then year else year + 1
    month := if month < 10 then month + 3 else month - 9
    day := inYear - daysBefore month + 1 }

end Date

end HybridStorage
