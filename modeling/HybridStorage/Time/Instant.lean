import HybridStorage.Fault
import HybridStorage.Time.Calendar

/-!
# Instants and durations

An instant is a local date and time of day. A leap second follows the last second of a minute: it is
kept as second 59 with a nanosecond field of one thousand million or more. Durations are whole
nanoseconds. `Instant.since` and `Instant.plus` say how leap seconds count.
-/

namespace HybridStorage

/-- A length of time in nanoseconds. -/
abbrev Duration := Int

namespace Duration

def second : Duration := 1000000000

def ofMilliseconds (n : Int) : Duration := n * 1000000

/-- The whole milliseconds, towards zero. -/
def milliseconds (d : Duration) : Int := d.tdiv 1000000

end Duration

/-- The first day that instants can have, 1 January -262143. -/
def firstDay : Int := -95745824

/-- The last day that instants can have, 31 December 262142. -/
def lastDay : Int := 95745704

theorem firstDay_eq : firstDay = (⟨-262143, 1, 1⟩ : Date).number := by decide

theorem lastDay_eq : lastDay = (⟨262142, 12, 31⟩ : Date).number := by decide

structure Instant where
  /-- The day count of `Date.number`. -/
  day : Int
  /-- Seconds from midnight, leap seconds not counted. -/
  second : Nat
  nano : Nat
  day_mem : firstDay ≤ day ∧ day ≤ lastDay
  second_lt : second < 86400
  nano_lt : nano < 2000000000
  /-- Only the last second of a minute is extended. -/
  leap : 1000000000 ≤ nano → second % 60 = 59
  deriving DecidableEq, Repr

namespace Instant

/-- The instant with the given fields, if there is one. -/
def of? (day : Int) (second nano : Nat) : Option Instant :=
  if h : (firstDay ≤ day ∧ day ≤ lastDay) ∧ second < 86400 ∧ nano < 2000000000 ∧
      (1000000000 ≤ nano → second % 60 = 59) then
    some ⟨day, second, nano, h.1, h.2.1, h.2.2.1, h.2.2.2⟩
  else none

/-- A number in the order of time: a leap second comes after the second it extends and before the
next one. -/
def order (t : Instant) : Int := (t.day * 86400 + t.second) * 2000000000 + t.nano

instance : LE Instant := ⟨fun a b => a.order ≤ b.order⟩
instance : LT Instant := ⟨fun a b => a.order < b.order⟩
instance (a b : Instant) : Decidable (a ≤ b) := inferInstanceAs (Decidable (a.order ≤ b.order))
instance (a b : Instant) : Decidable (a < b) := inferInstanceAs (Decidable (a.order < b.order))

/-- Nanoseconds since the start of the day count, leap seconds running into the next second. -/
def count (t : Instant) : Int := (t.day * 86400 + t.second) * Duration.second + t.nano

/-- The instant at a count of nanoseconds, outside leap seconds. -/
def ofCount (n : Int) : Checked Instant :=
  let seconds := n / Duration.second
  match of? (seconds / 86400) (seconds % 86400).toNat (n % Duration.second).toNat with
  | some t => .ok t
  | none => .error .instantOutOfRange

/-- The instant `d` after `t`. From within a leap second, a step of less than a second that does not
pass its end stays at that second; any other step forward first leaves the leap second behind. -/
def plus (t : Instant) (d : Duration) : Checked Instant :=
  if t.nano < 1000000000 then ofCount (t.count + d)
  else if Duration.second ≤ d ∨ 2 * Duration.second ≤ t.nano + d then
    ofCount (t.count - Duration.second + d)
  else if d ≤ -Duration.second then ofCount (t.count + d)
  else
    match of? t.day t.second (t.nano + d).toNat with
    | some t => .ok t
    | none => .error .instantOutOfRange

/-- The time from `b` to `a`. A leap second counts if the other instant's time of day lies past it:
when it is `b`'s, one second is added, when it is `a`'s, one is taken off. -/
def since (a b : Instant) : Duration :=
  let leap : Int :=
    if b.second < a.second ∧ 1000000000 ≤ b.nano then 1
    else if a.second < b.second ∧ 1000000000 ≤ a.nano then -1
    else 0
  a.count - b.count + leap * Duration.second

end Instant

end HybridStorage
