import HybridStorage.Proofs.Calendar
import HybridStorage.Proofs.Numerals
import HybridStorage.Proofs.Timeline
import HybridStorage.Time.Parse
import HybridStorage.Time.Print
import Mathlib.Algebra.Group.Nat.Defs

/-!
# Timestamps read back

A timestamp may be written to the minute, to the second, or with a fraction of one to nine digits.
`parse?_write`: whatever precision holds an instant exactly, the written text is read as that
instant, in any year and also within a leap second.
-/

namespace HybridStorage

open Text

/-- The nanoseconds within the written second. -/
def Instant.fraction (t : Instant) : Nat := t.nano % 1000000000

/-- How exactly a timestamp is written. -/
inductive Precision where
  | minutes
  | seconds
  | fraction (places : Nat)
  deriving DecidableEq, Repr

namespace Precision

/-- Nothing of the instant is lost. -/
def Holds : Precision → Instant → Prop
  | minutes, t => t.second % 60 = 0 ∧ t.nano = 0
  | seconds, t => t.fraction = 0
  | fraction places, t => 1 ≤ places ∧ places ≤ 9 ∧ t.fraction % 10 ^ (9 - places) = 0

/-- What stands behind the minute. -/
def tail : Precision → Instant → List Char
  | minutes, _ => []
  | seconds, t => ':' :: t.secondText
  | fraction places, t =>
    ':' :: t.secondText ++ '.' :: padded places (t.fraction / 10 ^ (9 - places))

def write (p : Precision) (t : Instant) : List Char :=
  t.date.text ++ 'T' :: t.minuteText ++ p.tail t

end Precision

/-! ### Numbers within a text -/

theorem Text.isBlank_of_isDigit {c : Char} (h : isDigit c = true) : isBlank c = false := by
  unfold isDigit digit? at h
  split at h
  · next range =>
    obtain ⟨low, high⟩ := range
    have low : 48 ≤ c.toNat := low
    have high : c.toNat ≤ 57 := high
    simp only [isBlank, decide_eq_false_iff_not]
    omega
  · cases h

theorem Text.trimStart_append {blanks field : List Char} (blank : ∀ c ∈ blanks, isBlank c = true)
    (some : field ≠ []) (solid : ∀ c ∈ field, isBlank c = false) (rest : List Char) :
    trimStart (blanks ++ (field ++ rest)) = field ++ rest := by
  obtain ⟨c, others, rfl⟩ := List.exists_cons_of_ne_nil some
  rw [trimStart, List.dropWhile_append_of_pos blank, List.cons_append, List.dropWhile_cons_of_neg]
  rw [solid c List.mem_cons_self]
  decide

theorem Text.trimStart_of_digits {run rest : List Char} (some : run ≠ [])
    (all : ∀ c ∈ run, isDigit c = true) : trimStart (run ++ rest) = run ++ rest := by
  have blank : ∀ c ∈ ([] : List Char), isBlank c = true := List.forall_mem_nil _
  have solid : ∀ c ∈ run, isBlank c = false := fun c member => isBlank_of_isDigit (all c member)
  have trimmed := trimStart_append blank some solid rest
  exact trimmed

theorem Text.takeWhile_digits {run rest : List Char} (all : ∀ c ∈ run, isDigit c = true)
    (ends : rest.head?.any isDigit = false) : (run ++ rest).takeWhile isDigit = run := by
  rw [List.takeWhile_append_of_pos all]
  cases rest with
  | nil => rw [List.takeWhile_nil, List.append_nil]
  | cons c others =>
    rw [List.takeWhile_cons_of_neg, List.append_nil]
    simpa using ends

theorem Text.takeWhile_padded (width n : Nat) :
    (padded width n).takeWhile isDigit = padded width n := by
  have run : (padded width n ++ []).takeWhile isDigit = padded width n :=
    takeWhile_digits (fun _ => isDigit_of_mem_padded) rfl
  rw [List.append_nil] at run
  exact run

namespace Instant

theorem readNumber_padded {width n : Nat} (positive : 0 < width) (h : n < 10 ^ width)
    (rest : List Char) : readNumber width (padded width n ++ rest) = some (n, rest) := by
  have length := length_padded positive h
  have some := padded_ne_nil width n
  have all : ∀ c ∈ padded width n, isDigit c = true := fun c => isDigit_of_mem_padded
  unfold readNumber
  dsimp only
  rw [trimStart_of_digits some all, List.take_left' length, takeWhile_padded,
    List.isEmpty_eq_false_iff.mpr some, if_neg (by decide), natural_padded, List.drop_left]

theorem readYear_signed {sign : Int} {n : Nat} {rest : List Char}
    (ends : rest.head?.any isDigit = false) :
    readYear.signed sign (padded 4 n ++ rest) = some (sign * n, rest) := by
  unfold readYear.signed
  dsimp only
  rw [takeWhile_digits (fun c => isDigit_of_mem_padded) ends,
    List.isEmpty_eq_false_iff.mpr (padded_ne_nil 4 n), if_neg (by decide), natural_padded,
    List.drop_left]

theorem readYear_of_unsigned {run rest : List Char} (some : run ≠ [])
    (all : ∀ c ∈ run, isDigit c = true) :
    readYear (run ++ rest) = (readNumber 4 (run ++ rest)).map fun (n, rest) => ((n : Int), rest) := by
  obtain ⟨c, others, rfl⟩ := List.exists_cons_of_ne_nil some
  have digit := all c List.mem_cons_self
  rw [readYear, trimStart_of_digits some all]
  split
  · next eq =>
    cases eq
    exact absurd digit (by decide)
  · next eq =>
    cases eq
    exact absurd digit (by decide)
  · rfl

theorem readYear_text (year : Int) (rest : List Char) :
    readYear (Date.yearText year ++ '-' :: rest) = some (year, '-' :: rest) := by
  have ends : ('-' :: rest).head?.any isDigit = false := rfl
  unfold Date.yearText
  split
  · next common =>
    have fits : year.natAbs < 10 ^ 4 := by omega
    rw [readYear_of_unsigned (padded_ne_nil 4 _) fun c => isDigit_of_mem_padded,
      readNumber_padded (by decide) fits]
    exact congrArg (fun y => some (y, '-' :: rest)) (Int.natAbs_of_nonneg common.1)
  · split
    · next negative =>
      have size : -1 * (year.natAbs : Int) = year := by omega
      exact (readYear_signed ends).trans (by rw [size])
    · next nonneg =>
      have size : 1 * (year.natAbs : Int) = year := by omega
      exact (readYear_signed ends).trans (by rw [size])

theorem readMark_forecast (mark : Char) (rest : List Char) :
    readMark .forecast mark (mark :: rest) = some rest := by
  simp [readMark, TimestampStyle.forecast]

theorem readFraction_padded {places n : Nat} (positive : 1 ≤ places) (le : places ≤ 9)
    (h : n < 10 ^ places) :
    readFraction ('.' :: padded places n) = some (n * 10 ^ (9 - places), []) := by
  have length := length_padded positive h
  simp only [readFraction, takeWhile_padded]
  rw [List.isEmpty_eq_false_iff.mpr (padded_ne_nil places n), if_neg (by decide),
    List.take_of_length_le (by omega), natural_padded, length, List.drop_eq_nil_of_le (by omega)]
  rfl

/-! ### Whole timestamps -/

/-- The fields that are written for an instant name it. -/
theorem ofFields_written (t : Instant) : ofFields ⟨t.date, t.second / 3600, t.second / 60 % 60,
    t.second % 60 + t.nano / 1000000000, t.fraction⟩ = some t := by
  have second_lt := t.second_lt
  have nano_lt := t.nano_lt
  have leap := t.leap
  have day : t.date.number = t.day := Date.number_ofNumber t.day
  unfold ofFields fraction
  dsimp only
  rw [if_pos ⟨Date.exists_ofNumber t.day, by omega, by omega, by omega⟩]
  split
  · rw [of?_eq_some_iff, day]
    omega
  · rw [of?_eq_some_iff, day]
    omega

/-- Behind the minute there are seconds or nothing. -/
theorem parse?_minutes (t : Instant) (rest : List Char) :
    parse? .forecast (t.date.text ++ 'T' :: t.minuteText ++ rest) =
      (if rest = [] then some (0, 0, []) else readSeconds .forecast rest).bind
        fun (second, fraction, left) =>
          if left = [] then
            ofFields ⟨t.date, t.second / 3600, t.second / 60 % 60, second, fraction⟩
          else none := by
  obtain ⟨monthFirst, monthLast, dayFirst, dayLast⟩ := Date.exists_ofNumber t.day
  have second_lt := t.second_lt
  have short : Date.daysInMonth t.date.year t.date.month < 10 ^ 2 := by
    unfold Date.daysInMonth
    split
    · split <;> decide
    · split <;> decide
  have month : t.date.month < 10 ^ 2 := Nat.lt_of_le_of_lt monthLast (by decide)
  have day : t.date.day < 10 ^ 2 := Nat.lt_of_le_of_lt dayLast short
  have hour : t.second / 3600 < 10 ^ 2 := by omega
  have minute : t.second / 60 % 60 < 10 ^ 2 := by omega
  have width : 0 < 2 := by decide
  simp only [parse?, Date.text, minuteText, List.append_assoc, List.cons_append,
    readYear_text, readMark_forecast, readNumber_padded width month,
    readNumber_padded width day, readNumber_padded width hour, readNumber_padded width minute,
    Option.bind_eq_bind, Option.bind_some]
  cases rest with
  | nil => rfl
  | cons c others => rfl

theorem readSeconds_text (t : Instant) (rest : List Char) :
    readSeconds .forecast (':' :: t.secondText ++ rest) = (readFraction rest).map
      fun (fraction, left) => (t.second % 60 + t.nano / 1000000000, fraction, left) := by
  have nano_lt := t.nano_lt
  have second : t.second % 60 + t.nano / 1000000000 < 10 ^ 2 := by omega
  have width : 0 < 2 := by decide
  simp only [readSeconds, secondText, List.cons_append, readMark_forecast,
    readNumber_padded width second, Option.bind_eq_bind, Option.bind_some]
  cases readFraction rest <;> rfl

theorem parse?_seconds {t : Instant} {rest : List Char} {fraction : Nat} (some : rest ≠ [])
    (read : readSeconds .forecast rest =
      .some (t.second % 60 + t.nano / 1000000000, fraction, [])) :
    parse? .forecast (t.date.text ++ 'T' :: t.minuteText ++ rest) =
      ofFields ⟨t.date, t.second / 3600, t.second / 60 % 60,
        t.second % 60 + t.nano / 1000000000, fraction⟩ := by
  rw [parse?_minutes, if_neg some, read, Option.bind_some]
  rfl

theorem parse?_write {p : Precision} {t : Instant} (holds : p.Holds t) :
    parse? .forecast (p.write t) = some t := by
  have fields := ofFields_written t
  cases p with
  | minutes =>
    obtain ⟨second, nano⟩ := holds
    rw [fraction, nano, second] at fields
    exact (parse?_minutes t []).trans fields
  | seconds =>
    have whole : t.fraction = 0 := holds
    have read := readSeconds_text t []
    rw [List.append_nil] at read
    rw [whole] at fields
    exact (parse?_seconds (List.cons_ne_nil _ _) read).trans fields
  | fraction places =>
    obtain ⟨positive, le, exact⟩ := holds
    have fits : t.fraction / 10 ^ (9 - places) < 10 ^ places := by
      rw [Nat.div_lt_iff_lt_mul (Nat.pow_pos (by decide)), ← pow_add, Nat.add_sub_cancel' le]
      exact Nat.mod_lt _ (by decide)
    have read := readSeconds_text t ('.' :: padded places (t.fraction / 10 ^ (9 - places)))
    rw [readFraction_padded positive le fits,
      Nat.div_mul_cancel (Nat.dvd_of_mod_eq_zero exact)] at read
    exact (parse?_seconds (List.cons_ne_nil _ _) read).trans fields

end Instant

end HybridStorage
