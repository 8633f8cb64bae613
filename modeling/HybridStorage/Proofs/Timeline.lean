import HybridStorage.Proofs.Results
import HybridStorage.Time.Clock

/-!
# Times of the cycles

If the last cycle has a time, so has every cycle before it, and from one cycle to the next no more
time passes than the period, also where the clock starts within a leap second.
-/

namespace HybridStorage

namespace Instant

theorem of?_eq_some_iff {day : Int} {second nano : Nat} {t : Instant} :
    of? day second nano = some t ↔ t.day = day ∧ t.second = second ∧ t.nano = nano := by
  unfold of?
  split
  · rw [Option.some.injEq]
    constructor
    · rintro rfl
      exact ⟨rfl, rfl, rfl⟩
    · rintro ⟨rfl, rfl, rfl⟩
      rfl
  · next absent =>
    constructor
    · intro h
      cases h
    · rintro ⟨rfl, rfl, rfl⟩
      exact absurd ⟨t.day_mem, t.second_lt, t.nano_lt, t.leap⟩ absent

theorem ofCount_eq_ok_iff {n : Int} {t : Instant} :
    ofCount n = .ok t ↔ t.count = n ∧ t.nano < 1000000000 := by
  have seconds := t.second_lt
  unfold ofCount count Duration.second
  dsimp only
  constructor
  · intro h
    split at h
    · next found =>
      cases h
      obtain ⟨day, second, nano⟩ := of?_eq_some_iff.mp found
      omega
    · cases h
  · rintro ⟨rfl, outside⟩
    have found : of? (((t.day * 86400 + t.second) * 1000000000 + t.nano) / 1000000000 / 86400)
        (((t.day * 86400 + t.second) * 1000000000 + t.nano) / 1000000000 % 86400).toNat
        (((t.day * 86400 + t.second) * 1000000000 + t.nano) % 1000000000).toNat = some t :=
      of?_eq_some_iff.mpr (by omega)
    rw [found]

/-- Between two instants there are no gaps in the calendar. -/
theorem ofCount_ok (first : Instant) {last : Instant} (outside : last.nano < 1000000000) {n : Int}
    (from_first : first.count ≤ n) (to_last : n ≤ last.count) : ∃ t, ofCount n = .ok t := by
  obtain ⟨firstDay, -⟩ := first.day_mem
  obtain ⟨-, lastDay⟩ := last.day_mem
  have seconds := last.second_lt
  unfold count Duration.second at from_first to_last
  have day_mem : HybridStorage.firstDay ≤ n / 1000000000 / 86400 ∧
      n / 1000000000 / 86400 ≤ HybridStorage.lastDay := by omega
  refine ⟨⟨n / 1000000000 / 86400, (n / 1000000000 % 86400).toNat, (n % 1000000000).toNat, day_mem,
    by omega, by omega, by omega⟩, ofCount_eq_ok_iff.mpr ⟨?_, ?_⟩⟩
  · unfold count Duration.second
    dsimp only
    omega
  · dsimp only
    omega

theorem plus_zero (t : Instant) : t.plus 0 = .ok t := by
  unfold plus
  split
  · next outside => exact ofCount_eq_ok_iff.mpr ⟨(Int.add_zero _).symm, outside⟩
  · next inside =>
    have nano := t.nano_lt
    have within : ¬(Duration.second ≤ 0 ∨ 2 * Duration.second ≤ t.nano + (0 : Duration)) := by
      unfold Duration.second Duration
      omega
    have forward : ¬(0 : Duration) ≤ -Duration.second := by decide
    have kept : of? t.day t.second (t.nano + (0 : Duration)).toNat = some t :=
      of?_eq_some_iff.mpr ⟨rfl, rfl, rfl⟩
    rw [if_neg within, if_neg forward, kept]

/-- What a step forward takes off for a leap second that it starts in. -/
def leapNanos (t : Instant) : Int := if 1000000000 ≤ t.nano then 1000000000 else 0

theorem leapNanos_bounds (t : Instant) : 0 ≤ t.leapNanos ∧ t.leapNanos ≤ 1000000000 := by
  unfold leapNanos
  split
  · decide
  · decide

theorem leapNanos_of_outside {t : Instant} (outside : t.nano < 1000000000) : t.leapNanos = 0 :=
  if_neg (Nat.not_le.mpr outside)

theorem plus_of_long (t : Instant) {d : Int} (long : 1000000000 ≤ d) :
    t.plus d = ofCount (t.count - t.leapNanos + d) := by
  unfold plus leapNanos
  split
  · next outside => rw [if_neg (Nat.not_le.mpr outside), Int.sub_zero]
  · next inside =>
    rw [if_pos (.inl long), if_pos (Nat.not_lt.mp inside)]
    rfl

theorem since_le {a : Instant} (b : Instant) (outside : a.nano < 1000000000) :
    a.since b ≤ a.count - b.count + b.leapNanos := by
  obtain ⟨nonneg, -⟩ := b.leapNanos_bounds
  unfold since
  dsimp only
  split
  · next passed =>
    rw [leapNanos, if_pos passed.2, Int.one_mul]
    exact Int.le_refl _
  · split
    · next inside => exact absurd inside.2 (Nat.not_le.mpr outside)
    · rw [Int.zero_mul]
      exact Int.add_le_add_left nonneg _

theorem since_eq {a b : Instant} (outside : a.nano < 1000000000) (outside' : b.nano < 1000000000) :
    (b.since a : Int) = b.count - a.count := by
  have neither : ¬(a.second < b.second ∧ 1000000000 ≤ a.nano) := by omega
  have nor : ¬(b.second < a.second ∧ 1000000000 ≤ b.nano) := by omega
  unfold since
  dsimp only
  rw [if_neg neither, if_neg nor, Int.zero_mul, Int.add_zero]

end Instant

namespace Clock

variable {c : Clock} {k last : Nat} {now : Instant}

/-- The cycles that the time counts. -/
def counted (k : Nat) : Int := min (k : Int) Reading.highest

theorem one_le_counted (k : Nat) : 1 ≤ counted (k + 1) := by
  unfold counted Reading.highest
  omega

theorem counted_le {k last : Nat} (le : k ≤ last) : counted k ≤ counted last := by
  unfold counted
  omega

theorem counted_succ_le (k : Nat) : counted (k + 1) ≤ counted k + 1 := by
  have next : ((k + 1 : Nat) : Int) = (k : Int) + 1 := rfl
  unfold counted
  omega

theorem timeOf_zero (c : Clock) : c.timeOf 0 = .ok c.start := by
  have none : c.period * min ((0 : Nat) : Int) Reading.highest = 0 := Int.mul_zero _
  rw [timeOf, none, Instant.plus_zero]

/-- The period as a count of nanoseconds. -/
def nanos (c : Clock) : Int := c.period

theorem nanos_le_mul {n : Int} (long : 1000000000 ≤ c.nanos) (some : 1 ≤ n) :
    c.nanos ≤ c.nanos * n := by
  have most := Int.mul_le_mul_of_nonneg_left some (Int.le_trans (by decide) long)
  rwa [Int.mul_one] at most

theorem timeOf_succ (long : 1000000000 ≤ c.nanos) (k : Nat) : c.timeOf (k + 1) =
    Instant.ofCount (c.start.count - c.start.leapNanos + c.nanos * counted (k + 1)) :=
  c.start.plus_of_long (Int.le_trans long (nanos_le_mul long (one_le_counted k)))

theorem timeOf_ok (long : 1000000000 ≤ c.nanos) (some : c.timeOf last = .ok now)
    (le : k ≤ last) : ∃ time, c.timeOf k = .ok time := by
  cases k with
  | zero => exact ⟨c.start, c.timeOf_zero⟩
  | succ k =>
    obtain ⟨last, rfl⟩ : ∃ n, last = n + 1 := ⟨last - 1, by omega⟩
    rw [timeOf_succ long] at some
    obtain ⟨count, outside⟩ := Instant.ofCount_eq_ok_iff.mp some
    have lower := nanos_le_mul long (one_le_counted k)
    have upper := Int.mul_le_mul_of_nonneg_left (counted_le le)
      (Int.le_trans (by decide) long : 0 ≤ c.nanos)
    obtain ⟨-, leap⟩ := c.start.leapNanos_bounds
    have from_start : c.start.count ≤
        c.start.count - c.start.leapNanos + c.nanos * counted (k + 1) := by omega
    have to_last : c.start.count - c.start.leapNanos + c.nanos * counted (k + 1) ≤ now.count := by
      omega
    rw [timeOf_succ long]
    exact Instant.ofCount_ok c.start outside from_start to_last

/-- No more than the period passes from one cycle to the next. -/
theorem since_le (long : 1000000000 ≤ c.nanos) {start finish : Instant}
    (earlier : c.timeOf k = .ok start) (later : c.timeOf (k + 1) = .ok finish) :
    finish.since start ≤ c.nanos := by
  rw [timeOf_succ long] at later
  obtain ⟨finishCount, outside⟩ := Instant.ofCount_eq_ok_iff.mp later
  have passed := Instant.since_le start outside
  have apart : finish.count - start.count + start.leapNanos ≤ c.nanos := by
    cases k with
    | zero =>
      cases c.timeOf_zero.symm.trans earlier
      have one : counted (0 + 1) = 1 := by
        unfold counted Reading.highest
        omega
      rw [one, Int.mul_one] at finishCount
      omega
    | succ k =>
      rw [timeOf_succ long] at earlier
      obtain ⟨startCount, outsideStart⟩ := Instant.ofCount_eq_ok_iff.mp earlier
      have upper := Int.mul_le_mul_of_nonneg_left (counted_succ_le (k + 1))
        (Int.le_trans (by decide) long : 0 ≤ c.nanos)
      rw [Int.mul_add, Int.mul_one] at upper
      rw [Instant.leapNanos_of_outside outsideStart]
      omega
  exact Int.le_trans passed apart

end Clock

end HybridStorage
