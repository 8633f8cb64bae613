import HybridStorage.Time.Calendar

/-!
# Dates and day counts

`number_ofNumber` and `exists_ofNumber`: every day count is that of the date read from it, and that
date is one of the calendar. Within 400 years the days are taken apart into centuries, groups of
four years that end with a leap day, years, and days from 1 March.
-/

namespace HybridStorage.Date

/-- A day of a cycle of 400 years, as its century, its four years, its year and its day in them. -/
structure InCycle (day century quad year rest : Nat) : Prop where
  century_le : century ≤ 3
  quad_le : quad ≤ 24
  year_le : year ≤ 3
  day_eq : day = 36524 * century + 1461 * quad + 365 * year + rest
  /-- A year has a day more only if it ends with a leap day. -/
  rest_le : rest ≤ 364 ∨ rest = 365 ∧ year = 3 ∧ (quad < 24 ∨ century = 3)

variable {day century quad year rest : Nat}

theorem exists_inCycle (h : day < 146097) :
    ∃ century quad year rest, InCycle day century quad year rest := by
  obtain ⟨century, hc⟩ : ∃ century, century = min (day / 36524) 3 := ⟨_, rfl⟩
  obtain ⟨quad, hq⟩ : ∃ quad, quad = (day - 36524 * century) / 1461 := ⟨_, rfl⟩
  obtain ⟨year, hy⟩ : ∃ year, year = min ((day - 36524 * century) % 1461 / 365) 3 := ⟨_, rfl⟩
  refine ⟨century, quad, year, day - 36524 * century - 1461 * quad - 365 * year, ?_⟩
  constructor <;> omega

namespace InCycle

theorem yearInCycle (h : InCycle day century quad year rest) :
    (day - day / 1460 + day / 36524 - day / 146096) / 365 = 100 * century + 4 * quad + year := by
  obtain ⟨hc, hq, hy, eq, hr⟩ := h
  -- Only the last day of the cycle lies beyond the length of an ordinary century.
  have within : day < 36524 * (century + 1) ∨ century = 3 ∧ day = 146096 := by omega
  have centuries : day / 36524 = century + day / 146096 := by
    rcases within with ordinary | ⟨rfl, rfl⟩
    · have : day / 36524 = century := by
        rw [Nat.div_eq_iff (by decide)]
        omega
      omega
    · rfl
  -- Four years are a day longer than 1460 days, so that their last year may count one more.
  have quads : day / 1460 = 25 * century + quad ∨ day / 1460 = 25 * century + quad + 1 := by
    have low : 1460 * (25 * century + quad) ≤ day := by omega
    have high : day < 1460 * (25 * century + quad + 2) := by omega
    omega
  have early : day / 1460 = 25 * century + quad + 1 → 1 ≤ rest := by omega
  have late : rest = 365 → day / 1460 = 25 * century + quad + 1 := by omega
  rw [centuries, Nat.div_eq_iff (by decide)]
  omega

theorem dayInYear (h : InCycle day century quad year rest) {years : Nat}
    (eq : years = 100 * century + 4 * quad + year) :
    365 * years + years / 4 - years / 100 + rest = day := by
  obtain ⟨hc, hq, hy, rfl, hr⟩ := h
  have quads : years / 4 = 25 * century + quad := by omega
  have centuries : years / 100 = century := by omega
  omega

end InCycle

theorem month_bounds : ∀ day < 366, (5 * day + 2) / 153 < 12 ∧
    daysBefore ((5 * day + 2) / 153) ≤ day ∧ day < daysBefore ((5 * day + 2) / 153 + 1) := by
  decide +kernel

/-- The date of a day in a year from March on. -/
def ofYearAndDay (year : Int) (rest : Nat) : Date :=
  let month := (5 * rest + 2) / 153
  { year := if month < 10 then year else year + 1
    month := if month < 10 then month + 3 else month - 9
    day := rest - daysBefore month + 1 }

/-- What a day count is taken apart into. -/
theorem ofNumber_eq (n : Int) : ∃ cycle century quad year rest,
    InCycle (n - 146097 * cycle).toNat century quad year rest ∧ 146097 * cycle ≤ n ∧
      ofNumber n = ofYearAndDay (400 * cycle + (100 * century + 4 * quad + year : Nat)) rest := by
  have bounds : (n % 146097).toNat < 146097 := by omega
  obtain ⟨century, quad, year, rest, split⟩ := exists_inCycle bounds
  have day : (n - 146097 * (n / 146097)).toNat = (n % 146097).toNat := by omega
  refine ⟨n / 146097, century, quad, year, rest, by rw [day]; exact split, by omega, ?_⟩
  have inYear := split.dayInYear rfl
  unfold ofNumber ofYearAndDay
  simp only [split.yearInCycle]
  rw [show (n % 146097).toNat - _ = rest by omega]

theorem number_ofYearAndDay (year : Int) {rest : Nat} (h : rest < 366) :
    (ofYearAndDay year rest).number = 365 * year + year / 4 - year / 100 + year / 400 + rest := by
  obtain ⟨month_lt, before, -⟩ := month_bounds rest h
  unfold ofYearAndDay number
  generalize (5 * rest + 2) / 153 = month at month_lt before ⊢
  by_cases spring : month < 10
  · have index : (month + 3 + 9) % 12 = month := by omega
    simp only [if_pos spring, index]
    rw [if_neg (by omega)]
    omega
  · have index : (month - 9 + 9) % 12 = month := by omega
    simp only [if_neg spring, index]
    rw [if_pos (by omega)]
    omega

/-- The months from March on, of which only February depends on the year. -/
theorem daysInMonth_of_index : ∀ month < 11, ∀ year,
    daysInMonth year (if month < 10 then month + 3 else month - 9) =
      daysBefore (month + 1) - daysBefore month := by
  intro month h year
  have shortOrLong : month = 0 ∨ month = 1 ∨ month = 2 ∨ month = 3 ∨ month = 4 ∨ month = 5 ∨
      month = 6 ∨ month = 7 ∨ month = 8 ∨ month = 9 ∨ month = 10 := by omega
  rcases shortOrLong with rfl | rfl | rfl | rfl | rfl | rfl | rfl | rfl | rfl | rfl | rfl <;> rfl

theorem exists_ofYearAndDay {year : Int} {rest : Nat}
    (h : rest ≤ 364 ∨ rest = 365 ∧ isLeapYear (year + 1) = true) :
    (ofYearAndDay year rest).Exists := by
  obtain ⟨month_lt, before, after⟩ := month_bounds rest (by omega)
  unfold ofYearAndDay Exists
  generalize index : (5 * rest + 2) / 153 = month at month_lt before after ⊢
  by_cases february : month = 11
  · subst february
    have length : rest - 337 + 1 ≤ daysInMonth (year + 1) 2 := by
      rcases h with short | ⟨rfl, leap⟩
      · rw [daysInMonth, if_pos rfl]
        split <;> omega
      · have long : daysInMonth (year + 1) 2 = 29 := by
          rw [daysInMonth, if_pos rfl, if_pos leap]
        omega
    exact ⟨(by decide : 1 ≤ 2), (by decide : 2 ≤ 12), Nat.le_add_left 1 _, length⟩
  · have length := daysInMonth_of_index month (by omega)
    refine ⟨?_, ?_, Nat.le_add_left 1 _, ?_⟩
    · dsimp only
      split <;> omega
    · dsimp only
      split <;> omega
    · dsimp only
      rw [length]
      omega

theorem number_ofNumber (n : Int) : (ofNumber n).number = n := by
  obtain ⟨cycle, century, quad, year, rest, split, low, same⟩ := ofNumber_eq n
  have day := split.dayInYear rfl
  obtain ⟨hc, hq, hy, eq, hr⟩ := split
  rw [same, number_ofYearAndDay _ (by omega)]
  generalize years : 100 * century + 4 * quad + year = y at day ⊢
  have quads : (400 * cycle + (y : Int)) / 4 = 100 * cycle + y / 4 := by omega
  have centuries : (400 * cycle + (y : Int)) / 100 = 4 * cycle + y / 100 := by omega
  have cycles : (400 * cycle + (y : Int)) / 400 = cycle := by omega
  omega

theorem exists_ofNumber (n : Int) : (ofNumber n).Exists := by
  obtain ⟨cycle, century, quad, year, rest, split, low, same⟩ := ofNumber_eq n
  obtain ⟨hc, hq, hy, eq, hr⟩ := split
  rw [same]
  apply exists_ofYearAndDay
  rcases hr with short | ⟨long, last, leap⟩
  · exact .inl short
  · refine .inr ⟨long, ?_⟩
    simp only [isLeapYear, decide_eq_true_eq]
    omega

end HybridStorage.Date
