import HybridStorage.Proofs.Totals

/-!
# Totals beyond the range of a reading

A total stops at a bound of the range whenever it gets there, and goes on from the bound. So it can
differ from the sum of its readings, and with the order in which they come. In every order it is the
sum, limited to the range, exactly if the readings have one sign or those of neither sign leave the
range by themselves.
-/

namespace HybridStorage.Aggregates

open Reading

/-- What some part of each value adds up to. -/
def sumOf (part : Int → Int) (values : List Int32) : Int :=
  values.foldr (fun v rest => part v.toInt + rest) 0

def sum : List Int32 → Int := sumOf id

/-- What the positive values add up to. -/
def rise : List Int32 → Int := sumOf (max · 0)

/-- What the negative values add up to. -/
def fall : List Int32 → Int := sumOf (min · 0)

/-- A running total that was stopped at a bound does not turn back, in whatever order the values
come: none of them is negative, or none is positive, or it is never stopped. -/
def Steady (values : List Int32) : Prop :=
  fall values = 0 ∨ rise values = 0 ∨ (lowest ≤ fall values ∧ rise values ≤ highest)

/-! ### Sums of one sign -/

theorem sum_cons (v : Int32) (rest : List Int32) : sum (v :: rest) = v.toInt + sum rest := rfl

theorem rise_cons (v : Int32) (rest : List Int32) :
    rise (v :: rest) = max v.toInt 0 + rise rest := rfl

theorem fall_cons (v : Int32) (rest : List Int32) :
    fall (v :: rest) = min v.toInt 0 + fall rest := rfl

theorem sum_eq (values : List Int32) :
    sum values = rise values + fall values ∧ 0 ≤ rise values ∧ fall values ≤ 0 := by
  induction values with
  | nil => exact ⟨rfl, Int.le_refl 0, Int.le_refl 0⟩
  | cons v rest ih =>
    rw [sum_cons, rise_cons, fall_cons]
    omega

theorem sumOf_of_perm (part : Int → Int) {order values : List Int32} (perm : order.Perm values) :
    sumOf part order = sumOf part values := by
  refine perm.foldr_eq' ?_ 0
  intro v _ w _ rest
  omega

theorem Steady.of_perm {order values : List Int32} (perm : order.Perm values)
    (steady : Steady values) : Steady order := by
  have falls : fall order = fall values := sumOf_of_perm _ perm
  have rises : rise order = rise values := sumOf_of_perm _ perm
  unfold Steady at steady ⊢
  rwa [rises, falls]

/-- The values below zero, or the others. -/
def side (negative : Bool) (values : List Int32) : List Int32 :=
  values.filter fun v => decide (v.toInt < 0) == negative

theorem sum_side_negative (values : List Int32) :
    sum (side true values) = fall values ∧ rise (side true values) = 0 := by
  induction values with
  | nil => exact ⟨rfl, rfl⟩
  | cons v rest ih =>
    unfold side at ih ⊢
    rw [List.filter_cons, fall_cons]
    by_cases negative : v.toInt < 0
    · rw [if_pos (by simp [negative]), sum_cons, rise_cons]
      omega
    · rw [if_neg (by simp [negative])]
      omega

theorem sum_side_nonnegative (values : List Int32) :
    sum (side false values) = rise values ∧ fall (side false values) = 0 := by
  induction values with
  | nil => exact ⟨rfl, rfl⟩
  | cons v rest ih =>
    unfold side at ih ⊢
    rw [List.filter_cons, rise_cons]
    by_cases negative : v.toInt < 0
    · rw [if_neg (by simp [negative])]
      omega
    · rw [if_pos (by simp [negative]), sum_cons, fall_cons]
      omega

theorem sides_perm (values : List Int32) (first : Bool) :
    (side first values ++ side (!first) values).Perm values := by
  have others : (values.filter fun v => !(decide (v.toInt < 0) == first)) =
      side (!first) values := by
    apply List.filter_congr
    intro v _
    cases first <;> cases decide (v.toInt < 0) <;> rfl
  have parts := List.filter_append_perm (fun v : Int32 => decide (v.toInt < 0) == first) values
  rw [others] at parts
  exact parts

/-! ### The running total -/

theorem toInt_foldl_of_steady {values : List Int32} (start : Int32)
    (steady : fall values = 0 ∨ rise values = 0 ∨
      (lowest ≤ start.toInt + fall values ∧ start.toInt + rise values ≤ highest)) :
    (values.foldl satAdd start).toInt =
      max lowest (min (start.toInt + sum values) highest) := by
  induction values generalizing start with
  | nil =>
    obtain ⟨low, high⟩ := fits_toInt start
    change start.toInt = max lowest (min (start.toInt + 0) highest)
    omega
  | cons v rest ih =>
    obtain ⟨low, high⟩ := fits_toInt start
    obtain ⟨whole, rising, falling⟩ := sum_eq rest
    have next := toInt_satAdd start v
    unfold lowest highest at *
    rw [rise_cons, fall_cons] at steady
    rw [List.foldl_cons, sum_cons, ih _ (by omega)]
    omega

/-- Readings of one sign after readings of one sign: either part may be stopped. -/
theorem toInt_foldl_append {first second : List Int32} (firstSign : fall first = 0 ∨ rise first = 0)
    (secondSign : fall second = 0 ∨ rise second = 0) :
    ((first ++ second).foldl satAdd 0).toInt =
      max lowest (min (max lowest (min (sum first) highest) + sum second) highest) := by
  have before := toInt_foldl_of_steady 0 (firstSign.imp_right .inl)
  rw [Int32.toInt_zero, Int.zero_add] at before
  rw [List.foldl_append, toInt_foldl_of_steady _ (secondSign.imp_right .inl), before]

/-- If it makes no difference whether the negative values come first or last, none can turn the
total back from a bound. -/
theorem steady_of_unordered {values : List Int32}
    (same : (side true values ++ side false values).foldl satAdd 0 =
      (side false values ++ side true values).foldl satAdd 0) : Steady values := by
  obtain ⟨negative, noRise⟩ := sum_side_negative values
  obtain ⟨nonnegative, noFall⟩ := sum_side_nonnegative values
  obtain ⟨-, rising, falling⟩ := sum_eq values
  have fallsFirst := toInt_foldl_append (.inr noRise) (.inl noFall)
  have risesFirst := toInt_foldl_append (.inl noFall) (.inr noRise)
  rw [same, risesFirst, negative, nonnegative] at fallsFirst
  unfold Steady
  unfold lowest highest at *
  omega

theorem total_eq_none_iff {readings : List (Option Int32)} :
    total readings = none ↔ none ∈ readings := by
  unfold total
  generalize (0 : Int32) = start
  induction readings generalizing start with
  | nil => simp
  | cons reading rest ih =>
    cases reading with
    | none => simp
    | some v => simpa using ih (satAdd start v)

theorem total_of_steady {values : List Int32} (steady : Steady values) :
    total (values.map some) = some (saturate (sum values)) := by
  have fold := toInt_foldl_of_steady 0 (by simpa [Steady] using steady)
  rw [Int32.toInt_zero, Int.zero_add, ← toInt_saturate] at fold
  rw [total_map_some, Int32.toInt_inj.mp fold]

/-- A total is undefined exactly if one of its readings is. Defined readings add up to their sum,
limited to the range of a reading, in every order exactly if they are steady, and only then the
total is the same in every order. -/
theorem total_limits_sum_iff (readings : List (Option Int32)) (values : List Int32) :
    (total readings = none ↔ none ∈ readings) ∧
      ((∀ order : List Int32, order.Perm values →
        total (order.map some) = some (saturate (sum values))) ↔ Steady values) ∧
      ((∀ order : List Int32, order.Perm values →
        total (order.map some) = total (values.map some)) ↔ Steady values) := by
  have limited (steady : Steady values) (order : List Int32) (perm : order.Perm values) :
      total (order.map some) = some (saturate (sum values)) := by
    have same : sum order = sum values := sumOf_of_perm _ perm
    rw [total_of_steady (steady.of_perm perm), same]
  have constant (same : ∀ order : List Int32, order.Perm values →
      total (order.map some) = total (values.map some)) : Steady values := by
    have unordered :=
      (same _ (sides_perm values true)).trans (same _ (sides_perm values false)).symm
    rw [total_map_some, total_map_some] at unordered
    exact steady_of_unordered (Option.some.inj unordered)
  refine ⟨total_eq_none_iff, ⟨fun exact => constant fun order perm => ?_, limited⟩, constant,
    fun steady order perm => ?_⟩
  · rw [exact order perm, exact values (.refl values)]
  · rw [limited steady order perm, limited steady values (.refl values)]

/-- Stopped at the upper bound, the total turns back from there; in the other order it does not get
to the bound. -/
theorem total_not_always_limited_sum :
    total [some 2147483647, some 1, some (-1)] = some 2147483646 ∧
      saturate (sum [2147483647, 1, -1]) = 2147483647 ∧
      total [some 1, some (-1), some 2147483647] = some 2147483647 ∧
      ¬∀ values order : List Int32, order.Perm values →
        total (order.map some) = some (saturate (sum values)) := by
  refine ⟨by decide, by decide, by decide, fun always => ?_⟩
  have limited := always [2147483647, 1, -1] _ (.refl _)
  exact absurd limited (by decide)

end HybridStorage.Aggregates
