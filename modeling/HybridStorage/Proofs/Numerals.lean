import HybridStorage.Text.Decimal
import Mathlib.Algebra.Group.Nat.Defs

/-!
# Numerals read back

The digits of a number are digits, spell it, and fit into any width that holds it, with or without
zeros in front. `readInt32_signed`: a reading written with its sign is read back.
-/

namespace HybridStorage.Text

theorem digit?_digitChar {d : Nat} (h : d < 10) : digit? (digitChar d) = some d := by
  have all : ∀ d < 10, digit? (digitChar d) = some d := by decide
  exact all d h

theorem isDigit_digitChar {d : Nat} (h : d < 10) : isDigit (digitChar d) = true := by
  rw [isDigit, digit?_digitChar h]
  rfl

theorem toNat_digitChar {d : Nat} (h : d < 10) : (digitChar d).toNat - 48 = d := by
  have all : ∀ d < 10, (digitChar d).toNat - 48 = d := by decide
  exact all d h

theorem natural_concat (cs : List Char) (c : Char) :
    natural (cs ++ [c]) = 10 * natural cs + (c.toNat - 48) := by
  rw [natural, List.foldl_append]
  rfl

theorem digits_ne_nil (n : Nat) : digits n ≠ [] := by
  rw [digits]
  split
  · exact List.cons_ne_nil _ _
  · exact List.concat_ne_nil _ _

theorem isDigit_of_mem_digits {n : Nat} {c : Char} (h : c ∈ digits n) : isDigit c = true := by
  induction n using digits.induct with
  | case1 n small =>
    rw [digits, if_pos small, List.mem_singleton] at h
    rw [h, isDigit_digitChar small]
  | case2 n large ih =>
    rw [digits, if_neg large] at h
    rcases List.mem_append.mp h with front | last
    · exact ih front
    · rw [List.mem_singleton.mp last, isDigit_digitChar (Nat.mod_lt _ (by decide))]

theorem natural_digits (n : Nat) : natural (digits n) = n := by
  induction n using digits.induct with
  | case1 n small =>
    rw [digits, if_pos small]
    change 10 * 0 + ((digitChar n).toNat - 48) = n
    rw [toNat_digitChar small]
    omega
  | case2 n large ih =>
    rw [digits, if_neg large, natural_concat, ih, toNat_digitChar (Nat.mod_lt _ (by decide))]
    omega

theorem length_digits_le {width n : Nat} (positive : 0 < width) (h : n < 10 ^ width) :
    (digits n).length ≤ width := by
  induction width generalizing n with
  | zero => exact absurd positive (by decide)
  | succ width ih =>
    rw [digits]
    split
    · exact Nat.le_add_left 1 width
    · next large =>
      rw [pow_succ] at h
      have wide : 0 < width := by
        apply Nat.pos_of_ne_zero
        rintro rfl
        omega
      rw [List.length_append]
      exact Nat.add_le_add_right (ih wide (by omega)) 1

/-! ### Padded numerals -/

theorem isDigit_of_mem_padded {width n : Nat} {c : Char} (h : c ∈ padded width n) :
    isDigit c = true := by
  rcases List.mem_append.mp h with zero | digit
  · rw [(List.mem_replicate.mp zero).2]
    rfl
  · exact isDigit_of_mem_digits digit

theorem natural_padded (width n : Nat) : natural (padded width n) = n := by
  have zeros : ∀ count, natural (List.replicate count '0' ++ digits n) = n := by
    intro count
    induction count with
    | zero => exact natural_digits n
    | succ count ih => exact ih
  exact zeros _

theorem padded_ne_nil (width n : Nat) : padded width n ≠ [] :=
  List.append_ne_nil_of_right_ne_nil _ (digits_ne_nil n)

theorem length_padded {width n : Nat} (positive : 0 < width) (h : n < 10 ^ width) :
    (padded width n).length = width := by
  have fits := length_digits_le positive h
  rw [padded, List.length_append, List.length_replicate]
  omega

/-! ### Readings with a sign -/

theorem readDigits_append (sign total : Int) (first second : List Char) :
    readDigits sign total (first ++ second) =
      (readDigits sign total first).bind fun total => readDigits sign total second := by
  induction first generalizing total with
  | nil => rfl
  | cons c rest ih =>
    rw [List.cons_append, readDigits, readDigits]
    split
    · rfl
    · dsimp only
      split
      · rfl
      · split
        · rfl
        · exact ih _

theorem readDigits_digitChar {sign total : Int} {d : Nat} (h : d < 10)
    (low : Reading.lowest ≤ 10 * total + sign * d)
    (high : 10 * total + sign * d ≤ Reading.highest) :
    readDigits sign total [digitChar d] = .ok (10 * total + sign * d) := by
  rw [readDigits, digit?_digitChar h]
  dsimp only
  rw [if_neg (Int.not_lt.mpr high), if_neg (Int.not_lt.mpr low), readDigits]

theorem readDigits_digits {sign : Int} (unit : sign = 1 ∨ sign = -1) {n : Nat}
    (low : Reading.lowest ≤ sign * n) (high : sign * n ≤ Reading.highest) :
    readDigits sign 0 (digits n) = .ok (sign * n) := by
  unfold Reading.lowest at *
  unfold Reading.highest at *
  induction n using digits.induct with
  | case1 n small =>
    rw [digits, if_pos small, readDigits_digitChar small]
    · simp
    · unfold Reading.lowest; omega
    · unfold Reading.highest; omega
  | case2 n large ih =>
    have whole : 10 * (sign * (n / 10 : Nat)) + sign * (n % 10 : Nat) = sign * n := by
      rcases unit with rfl | rfl <;> omega
    have front : readDigits sign 0 (digits (n / 10)) = .ok (sign * (n / 10 : Nat)) := by
      apply ih <;> (rcases unit with rfl | rfl <;> omega)
    rw [digits, if_neg large, readDigits_append, front]
    change readDigits sign _ [digitChar (n % 10)] = _
    rw [readDigits_digitChar (Nat.mod_lt _ (by decide)), whole]
    · rw [whole]; exact low
    · rw [whole]; exact high

/-- A text that starts with a digit has no sign. -/
theorem readInt32_of_unsigned {cs : List Char} (some : cs ≠ [])
    (all : ∀ c ∈ cs, isDigit c = true) :
    readInt32 cs = (readDigits 1 0 cs).map Int32.ofInt := by
  unfold readInt32
  split
  · exact absurd rfl some
  · exact absurd (all '+' (List.mem_singleton.mpr rfl)) (by decide)
  · exact absurd (all '-' (List.mem_singleton.mpr rfl)) (by decide)
  · exact absurd (all '+' List.mem_cons_self) (by decide)
  · exact absurd (all '-' List.mem_cons_self) (by decide)
  · rfl

theorem readInt32_of_negative {cs : List Char} (some : cs ≠ []) :
    readInt32 ('-' :: cs) = (readDigits (-1) 0 cs).map Int32.ofInt := by
  obtain ⟨c, rest, rfl⟩ := List.exists_cons_of_ne_nil some
  rfl

theorem readInt32_signed (value : Int32) : readInt32 (signed value.toInt) = .ok value := by
  have low := Reading.lowest_le_toInt value
  have high := Reading.toInt_le_highest value
  have some := digits_ne_nil value.toInt.natAbs
  unfold signed
  split
  · next negative =>
    have size : -1 * (value.toInt.natAbs : Int) = value.toInt := by omega
    rw [readInt32_of_negative some, readDigits_digits (.inr rfl) (by rw [size]; exact low)
      (by rw [size]; exact high), size]
    exact congrArg Except.ok (Int32.ofInt_toInt value)
  · next nonneg =>
    have size : 1 * (value.toInt.natAbs : Int) = value.toInt := by omega
    rw [readInt32_of_unsigned some fun c => isDigit_of_mem_digits, readDigits_digits (.inl rfl)
      (by rw [size]; exact low) (by rw [size]; exact high), size]
    exact congrArg Except.ok (Int32.ofInt_toInt value)

end HybridStorage.Text
