/-!
# Faults

A fault ends the whole program, unlike an error that only aborts one control cycle. Every place
where fixed-width arithmetic or the calendar could run out of range answers in `Checked`, so that
"this cannot happen" is a statement about a result.
-/

namespace HybridStorage

/-- What ends the program. -/
inductive Fault where
  /-- A 32-bit or 64-bit result does not fit. -/
  | overflow
  /-- An instant lies outside the calendar. -/
  | instantOutOfRange
  /-- Sunrise and sunset do not bound a period of one day. -/
  | daylightWindow
  deriving DecidableEq, Repr

def Fault.message : Fault → String
  | .overflow => "a number is too large"
  | .instantOutOfRange => "a time lies outside the calendar"
  | .daylightWindow => "sunrise and sunset do not bound a day"

abbrev Checked := Except Fault

end HybridStorage
