import HybridStorage.Proofs.Running
import HybridStorage.Proofs.Timeline

/-!
# Ticks of the clock

The clock hands out its cycles in order, each with the time of its index, and nothing once they have
run. The times are one period apart up to index 2147483647, the greatest factor of the period, and
all later cycles have the time of that one.
-/

namespace HybridStorage

namespace Instant

variable {a b : Instant}

theorem plus_eq_ok_iff (outside : a.nano < 1000000000) {d : Int} :
    a.plus d = .ok b ↔ b.count = a.count + d ∧ b.nano < 1000000000 := by
  rw [plus, if_pos outside, ofCount_eq_ok_iff]

theorem lt_iff_count_lt (outside : a.nano < 1000000000) (outside' : b.nano < 1000000000) :
    a < b ↔ a.count < b.count := by
  change a.order < b.order ↔ _
  unfold order count Duration.second
  omega

end Instant

namespace Clock

variable {c c' : Clock} {cycles : List (Nat × Instant)} {j k n : Nat} {now next last : Instant}

theorem counted_eq_iff : counted k = k ↔ k ≤ 2147483647 := by
  unfold counted Reading.highest
  omega

theorem counted_succ (k : Nat) :
    counted (k + 1) = counted k + if k < 2147483647 then 1 else 0 := by
  unfold counted Reading.highest
  split <;> omega

theorem counted_lt_iff (less : j < k) : counted j < counted k ↔ j < 2147483647 := by
  unfold counted Reading.highest
  omega

theorem timeOf_eq_ok_iff (regular : c.start.nano < 1000000000) :
    c.timeOf k = .ok now ↔
      now.count = c.start.count + c.nanos * counted k ∧ now.nano < 1000000000 :=
  Instant.plus_eq_ok_iff regular

/-- If a period can be added so many times, every cycle up to there has a time. -/
theorem timeOf_ok_of_plus (regular : c.start.nano < 1000000000) (forward : 0 ≤ c.nanos)
    (representable : c.start.plus (c.period * n) = .ok last) (le : k ≤ n) :
    ∃ now, c.timeOf k = .ok now := by
  obtain ⟨count, outside⟩ := (Instant.plus_eq_ok_iff regular).mp representable
  have factor : 0 ≤ counted k ∧ counted k ≤ n := by
    unfold counted Reading.highest
    omega
  have lower := Int.mul_nonneg forward factor.1
  have upper := Int.mul_le_mul_of_nonneg_left factor.2 forward
  have last_count : last.count = c.start.count + c.nanos * n := count
  obtain ⟨now, made⟩ := Instant.ofCount_ok c.start outside
    (n := c.start.count + c.nanos * counted k) (by omega) (by omega)
  obtain ⟨nowCount, nowOutside⟩ := Instant.ofCount_eq_ok_iff.mp made
  exact ⟨now, (timeOf_eq_ok_iff regular).mpr ⟨nowCount, nowOutside⟩⟩

theorem plus_eq_ok_iff_of_timeOf (regular : c.start.nano < 1000000000) (forward : 0 < c.nanos)
    (time : c.timeOf k = .ok now) :
    c.start.plus (c.period * k) = .ok now ↔ k ≤ 2147483647 := by
  obtain ⟨count, outside⟩ := (timeOf_eq_ok_iff regular).mp time
  rw [Instant.plus_eq_ok_iff regular, ← counted_eq_iff]
  constructor
  · rintro ⟨apart, -⟩
    have same : c.nanos * k = c.nanos * counted k :=
      Int.add_left_cancel (apart.symm.trans count)
    exact (Int.eq_of_mul_eq_mul_left (Int.ne_of_gt forward) same).symm
  · intro factor
    rw [factor] at count
    exact ⟨count, outside⟩

theorem since_of_timeOf (regular : c.start.nano < 1000000000) (time : c.timeOf k = .ok now)
    (time' : c.timeOf (k + 1) = .ok next) :
    (next.since now : Int) = if k < 2147483647 then c.nanos else 0 := by
  obtain ⟨count, outside⟩ := (timeOf_eq_ok_iff regular).mp time
  obtain ⟨count', outside'⟩ := (timeOf_eq_ok_iff regular).mp time'
  have apart : next.count - now.count = if k < 2147483647 then c.nanos else 0 := by
    rw [count, count', counted_succ, Int.mul_add]
    split
    · rw [Int.mul_one]
      omega
    · rw [Int.mul_zero]
      omega
  exact (Instant.since_eq outside outside').trans apart

theorem lt_iff_of_timeOf (regular : c.start.nano < 1000000000) (forward : 0 < c.nanos)
    (time : c.timeOf j = .ok now) (time' : c.timeOf k = .ok next) (less : j < k) :
    now < next ↔ j < 2147483647 := by
  obtain ⟨count, outside⟩ := (timeOf_eq_ok_iff regular).mp time
  obtain ⟨count', outside'⟩ := (timeOf_eq_ok_iff regular).mp time'
  rw [Instant.lt_iff_count_lt outside outside', count, count', ← counted_lt_iff less,
    Int.add_lt_add_iff_left]
  exact Int.mul_lt_mul_left forward

/-! ### Several ticks -/

theorem ticks_of_ended (ended : c.total ≤ c.current) (n : Nat) : c.ticks n = .ok ([], c) := by
  cases n with
  | zero => rfl
  | succ n =>
    rw [ticks, tick, if_neg (Nat.not_lt.mpr ended)]
    rfl

theorem timeOf_of_ticks (run : c.ticks n = .ok (cycles, c')) :
    ∀ p ∈ cycles, c.timeOf p.1 = .ok p.2 := by
  induction n generalizing c cycles with
  | zero =>
    cases run
    exact List.forall_mem_nil _
  | succ n ih =>
    obtain ⟨_ | ⟨⟨index, now⟩, ticked⟩, first, rest⟩ := bind_eq_ok_iff.mp run
    · cases rest
      exact List.forall_mem_nil _
    · obtain ⟨-, rfl, time, rfl⟩ := tick_eq_ok_some_iff.mp first
      obtain ⟨⟨others, _⟩, later, same⟩ := bind_eq_ok_iff.mp rest
      cases same
      -- The time of an index does not depend on how far the clock has ticked.
      have timed := ih later
      exact List.forall_mem_cons.mpr ⟨time, timed⟩

theorem ticks_ok (within : c.current + n ≤ c.total)
    (times : ∀ k < c.current + n, ∃ now, c.timeOf k = .ok now) :
    ∃ cycles, c.ticks n = .ok (cycles, { c with current := c.current + n }) ∧
      cycles.map Prod.fst = List.range' c.current n := by
  induction n generalizing c with
  | zero => exact ⟨[], rfl, rfl⟩
  | succ n ih =>
    obtain ⟨now, time⟩ := times c.current (by omega)
    have first : c.tick = .ok (some ((c.current, now), { c with current := c.current + 1 })) :=
      tick_eq_ok_some_iff.mpr ⟨by omega, rfl, time, rfl⟩
    obtain ⟨others, later, indices⟩ := ih (c := { c with current := c.current + 1 })
      (by dsimp only; omega) (fun k less => times k (by dsimp only at less; omega))
    refine ⟨(c.current, now) :: others, ?_, ?_⟩
    · rw [Nat.add_right_comm] at later
      exact bind_eq_ok_iff.mpr ⟨_, first, bind_eq_ok_iff.mpr ⟨_, later, rfl⟩⟩
    · rw [List.map_cons, indices, List.range'_succ]

/-- A clock that has not ticked yet and does not start within a leap second hands out all its cycles
in order and then nothing more. The time of a cycle is the start and as many periods as its index
exactly up to index 2147483647. Below it the next cycle comes a period later, and every later cycle
has a later time; from it on the time stands still. -/
theorem ticks_at_fixed_period (fresh : c.current = 0) (regular : c.start.nano < 1000000000)
    (forward : 0 < c.nanos) (within : n ≤ c.total)
    (representable : c.start.plus (c.period * ((n - 1 : Nat) : Int)) = .ok last) :
    ∃ cycles c', c.ticks n = .ok (cycles, c') ∧ cycles.map Prod.fst = List.range n ∧
      (n = c.total → c.run = .ok (cycles, c') ∧ ∀ m, c'.ticks m = .ok ([], c')) ∧
      (∀ k now, (k, now) ∈ cycles → (c.start.plus (c.period * k) = .ok now ↔ k ≤ 2147483647)) ∧
      (∀ k now next, (k, now) ∈ cycles → (k + 1, next) ∈ cycles →
        (next.since now : Int) = if k < 2147483647 then c.nanos else 0) ∧
      ∀ j k now later, (j, now) ∈ cycles → (k, later) ∈ cycles → j < k →
        (now < later ↔ j < 2147483647) := by
  have times : ∀ k < c.current + n, ∃ now, c.timeOf k = .ok now := fun k less =>
    timeOf_ok_of_plus regular (Int.le_of_lt forward) representable (by omega)
  obtain ⟨cycles, run, indices⟩ := ticks_ok (by omega) times
  have timed {k : Nat} {now : Instant} (member : (k, now) ∈ cycles) : c.timeOf k = .ok now :=
    timeOf_of_ticks run (k, now) member
  refine ⟨cycles, _, run, ?_, ?_, ?_, ?_, ?_⟩
  · rw [indices, fresh, List.range_eq_range']
  · intro all
    have whole : c.remaining = n := by
      unfold remaining
      omega
    have ended : c.total ≤ c.current + n := by omega
    rw [Clock.run, whole]
    exact ⟨run, fun m => ticks_of_ended ended m⟩
  · intro k now member
    exact plus_eq_ok_iff_of_timeOf regular forward (timed member)
  · intro k now next member follows
    exact since_of_timeOf regular (timed member) (timed follows)
  · intro j k now later member follows less
    exact lt_iff_of_timeOf regular forward (timed member) (timed follows) less

/-- A clock that ticks every millisecond, for longer than the factor of its period grows. -/
def fineClock : Clock := ⟨SimulationSpec.defaultStart, Duration.ofMilliseconds 1, 2147483650, 0⟩

theorem fineClock_representable :
    ∃ last, fineClock.start.plus (fineClock.period * ((2147483649 : Nat) : Int)) = .ok last := by
  have some : (fineClock.start.plus
      (fineClock.period * ((2147483649 : Nat) : Int))).toOption.isSome = true := by decide
  obtain ⟨last, made⟩ := Option.isSome_iff_exists.mp some
  exact ⟨last, ok_of_toOption made⟩

/-- It has a time for each of its cycles, and the last two times are the same. -/
theorem ticks_at_fixed_period_fine : ∃ cycles c',
    fineClock.ticks 2147483650 = .ok (cycles, c') ∧
      cycles.map Prod.fst = List.range 2147483650 ∧ (∀ m, c'.ticks m = .ok ([], c')) ∧
      (∀ now next, (2147483646, now) ∈ cycles → (2147483647, next) ∈ cycles →
        (next.since now : Int) = 1000000) ∧
      ∀ now next, (2147483648, now) ∈ cycles → (2147483649, next) ∈ cycles →
        (next.since now : Int) = 0 := by
  obtain ⟨last, representable⟩ := fineClock_representable
  obtain ⟨cycles, c', run, indices, ended, -, apart, -⟩ :=
    ticks_at_fixed_period (c := fineClock) (n := 2147483650) rfl (by decide) (by decide)
      (Nat.le_refl _) representable
  refine ⟨cycles, c', run, indices, (ended rfl).2, ?_, ?_⟩
  · intro now next member follows
    exact apart _ _ _ member follows
  · intro now next member follows
    exact apart _ _ _ member follows

/-- So the cycles of a clock are not always a period apart. -/
theorem not_always_at_fixed_period : ¬∀ (c : Clock) (k : Nat) (last : Instant), c.current = 0 →
    c.start.nano < 1000000000 → 0 < c.nanos → k + 1 < c.total →
    c.start.plus (c.period * ((k + 1 : Nat) : Int)) = .ok last →
    ∃ cycles c', c.ticks (k + 2) = .ok (cycles, c') ∧
      cycles.map Prod.fst = List.range (k + 2) ∧
      ∀ now next, (k, now) ∈ cycles → (k + 1, next) ∈ cycles →
        c.start.plus (c.period * k) = .ok now ∧ (next.since now : Int) = c.nanos := by
  intro always
  have regular : fineClock.start.nano < 1000000000 := by decide
  obtain ⟨last, representable⟩ := fineClock_representable
  obtain ⟨cycles, c', run, indices, apart⟩ :=
    always fineClock 2147483648 last rfl regular (by decide) (by decide) representable
  have handed {k : Nat} (less : k < 2147483650) : ∃ now, (k, now) ∈ cycles := by
    have index : k ∈ cycles.map Prod.fst := by
      rw [indices]
      exact List.mem_range.mpr less
    obtain ⟨⟨_, now⟩, member, rfl⟩ := List.mem_map.mp index
    exact ⟨now, member⟩
  obtain ⟨now, member⟩ := handed (k := 2147483648) (by decide)
  obtain ⟨next, follows⟩ := handed (k := 2147483649) (by decide)
  have time : fineClock.timeOf 2147483648 = .ok now := timeOf_of_ticks run _ member
  have time' : fineClock.timeOf 2147483649 = .ok next := timeOf_of_ticks run _ follows
  have still : (next.since now : Int) = 0 := since_of_timeOf regular time time'
  have period : (next.since now : Int) = 1000000 := (apart now next member follows).2
  rw [still] at period
  cases period

end Clock

end HybridStorage
