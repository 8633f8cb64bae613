import HybridStorage.Proofs.Build
import HybridStorage.Proofs.Comparison

/-!
# Assembling engines

Every scenario has an answer: an engine, or everything that is wrong with it. What the rules let
through is what the parts of an engine can be made of. The hours of daylight are checked twice, in
the rules and by the profile, and both mean the same numbers. No duration or energy of a scenario is
too large to be kept.
-/

namespace HybridStorage

/-! ### Daylight -/

theorem Binary64.toRat?_zero : (ofNat 0).toRat? = some 0 := by
  have read : (ofNat 0).value = .finite false ⟨0, -1074⟩ := by decide
  rw [toRat?, read]
  exact congrArg some (Magnitude.toRat_eq_zero rfl)

theorem Binary64.toRat?_twentyFour : (ofNat 24).toRat? = some 24 := by
  have read : (ofNat 24).value = .finite false ⟨24 * 2 ^ 48, -48⟩ := by decide
  rw [toRat?, read]
  dsimp only
  rw [Magnitude.toRat_eq]
  norm_num [signed]

namespace ProductionProfile

variable {x sunrise sunset : Binary64}

theorem isHour_iff : isHour x = true ↔ ∃ v, x.toRat? = some v ∧ 0 ≤ v ∧ v ≤ 24 :=
  Binary64.within_iff Binary64.toRat?_zero Binary64.toRat?_twentyFour

/-- The hours between which a profile can have its daylight. -/
theorem isDaylight_iff : isDaylight sunrise sunset = true ↔
    ∃ v w, sunrise.toRat? = some v ∧ sunset.toRat? = some w ∧ 0 ≤ v ∧ v < w ∧ w ≤ 24 := by
  rw [isDaylight, Bool.and_eq_true_iff, Bool.and_eq_true_iff, isHour_iff, isHour_iff]
  constructor
  · rintro ⟨⟨⟨v, rises, low, -⟩, w, sets, -, high⟩, before⟩
    exact ⟨v, w, rises, sets, low, (Binary64.lt_iff rises sets).mp before, high⟩
  · rintro ⟨v, w, rises, sets, low, before, high⟩
    exact ⟨⟨⟨v, rises, low, before.le.trans high⟩, w, sets, low.trans before.le, high⟩,
      (Binary64.lt_iff rises sets).mpr before⟩

theorem create_eq_ok_iff {peak deviation : Binary64} {seed : UInt64} :
    (∃ p, create peak sunrise sunset deviation seed = .ok p) ↔
      isDaylight sunrise sunset = true := by
  unfold create
  split
  · next daylight => simp [daylight]
  · next dark => simp [dark]

end ProductionProfile

/-- The profile accepts the hours of daylight exactly if the rules do. -/
theorem ProductionSpec.isDaylight_iff {p : ProductionSpec} {load : LoadSpec} :
    ProductionProfile.isDaylight p.sunrise p.sunset = true ↔
      .daylightHours ∉ p.violations load ∧ .daylightOrder ∉ p.violations load := by
  have hours : .daylightHours ∉ p.violations load ↔
      ProductionProfile.isHour p.sunrise = true ∧ ProductionProfile.isHour p.sunset = true := by
    simp [violations, Violation.mem_when]
  have order : .daylightOrder ∉ p.violations load ↔ ¬p.sunset.le p.sunrise = true := by
    simp [violations, Violation.mem_when]
  rw [hours, order, ProductionProfile.isDaylight, Bool.and_eq_true_iff, Bool.and_eq_true_iff]
  refine and_congr_right fun isHours => ?_
  obtain ⟨isSunrise, isSunset⟩ := isHours
  obtain ⟨v, rises, -⟩ := ProductionProfile.isHour_iff.mp isSunrise
  obtain ⟨w, sets, -⟩ := ProductionProfile.isHour_iff.mp isSunset
  rw [Binary64.lt_iff rises sets, Binary64.le_iff sets rises, not_le]

/-- No other section of a scenario breaks a rule about daylight. -/
theorem Scenario.daylight_mem_violations {s : Scenario} {v : Violation}
    (daylight : v = .daylightHours ∨ v = .daylightOrder) :
    v ∈ s.violations ↔ v ∈ s.production.violations s.load := by
  have notUnits : v ∉ unitViolations 0 [] s.units := by
    intro member
    obtain ⟨u, position, earlier, member⟩ := mem_unitViolations member
    rcases daylight with rfl | rfl <;> simp [UnitSpec.violations, Violation.mem_when] at member
  have notOthers : v ∉ s.simulation.violations ++ s.controller.violations s.units s.meter := by
    rcases daylight with rfl | rfl <;>
      simp [SimulationSpec.violations, Settings.violations, Violation.mem_when]
  rw [violations, List.mem_append, List.mem_append]
  constructor
  · rintro ((others | units) | own)
    · exact absurd others notOthers
    · exact absurd units notUnits
    · exact own
  · exact .inr

/-! ### Durations -/

/-- A duration of some milliseconds. The longest one is as long forwards as backwards. -/
def Duration.exactMilliseconds (n : Int) : Checked Duration :=
  if -longestMilliseconds ≤ n ∧ n ≤ longestMilliseconds then .ok (ofMilliseconds n)
  else .error .overflow

/-- A word of milliseconds as a duration, cut off where it is no signed word. -/
def Duration.ofWord (n : UInt64) : Checked Duration :=
  exactMilliseconds (if n.toNat ≤ longestMilliseconds then n.toNat else longestMilliseconds)

/-- A word of seconds as a word of milliseconds, cut off at the greatest word. -/
def millisecondWord (seconds : UInt64) : UInt64 := .ofNat (min (1000 * seconds.toNat) (2 ^ 64 - 1))

theorem Duration.ofWord_eq (n : UInt64) : ofWord n = .ok (cutMilliseconds n.toNat) := by
  have cut : (if n.toNat ≤ longestMilliseconds then (n.toNat : Int) else longestMilliseconds) =
      min (n.toNat : Int) longestMilliseconds := by
    split <;> omega
  rw [ofWord, cut, exactMilliseconds, if_pos (by omega)]
  rfl

/-- Nothing is lost in two steps: what the first one cuts off is beyond the longest duration. -/
theorem Duration.ofWord_millisecondWord (seconds : UInt64) :
    ofWord (millisecondWord seconds) = .ok (cutSeconds seconds.toNat) := by
  have word : (millisecondWord seconds).toNat = min (1000 * seconds.toNat) (2 ^ 64 - 1) := by
    rw [millisecondWord, UInt64.toNat_ofNat', Nat.mod_eq_of_lt (by omega)]
  have same : min ((min (1000 * seconds.toNat) (2 ^ 64 - 1) : Nat) : Int) longestMilliseconds =
      min ((1000 * seconds.toNat : Nat) : Int) longestMilliseconds := by
    unfold longestMilliseconds
    omega
  rw [ofWord_eq, word, cutSeconds, cutMilliseconds, cutMilliseconds, same]

/-- The timing of a unit, its durations made from words. -/
def UnitSpec.checkedTiming (u : UnitSpec) : Checked ReadinessTiming := do
  let response ← Duration.ofWord u.response
  match u.timeout with
  | none => pure ⟨response, none⟩
  | some seconds =>
    let timeout ← Duration.ofWord (millisecondWord seconds)
    pure ⟨response, some timeout⟩

theorem UnitSpec.checkedTiming_eq (u : UnitSpec) : u.checkedTiming = .ok u.timing := by
  rw [checkedTiming, timing, Duration.ofWord_eq]
  cases u.timeout with
  | none => rfl
  | some seconds =>
    dsimp only
    rw [Duration.ofWord_millisecondWord]
    rfl

/-! ### Engines -/

namespace Scenario

variable {s : Scenario}

theorem build_eq_error_iff {errors : List Violation} :
    s.build = .ok (.error errors) ↔ errors = s.violations ∧ errors ≠ [] := by
  unfold build
  split
  · next valid =>
    rw [valid]
    constructor
    · intro h
      obtain ⟨_, _, same⟩ := map_eq_ok_iff.mp h
      cases same
    · rintro ⟨rfl, some⟩
      exact absurd rfl some
  · next broken =>
    constructor
    · rintro ⟨⟩
      exact ⟨rfl, broken⟩
    · rintro ⟨rfl, -⟩
      rfl

/-- Whatever a scenario says, it has an engine or a list of what is wrong with it. The profile of
its production can be made exactly if no rule about daylight is broken, and exactly if sunrise and
sunset are numbers within the day, in this order. All its durations and energies can be made. -/
theorem build_answers (s : Scenario) :
    (∃ answer, s.build = .ok answer) ∧
    (∀ errors, s.build = .ok (.error errors) ↔ errors = s.violations ∧ errors ≠ []) ∧
    ((∃ e, s.build = .ok (.ok e)) ↔ s.violations = []) ∧
    ((∃ p, s.productionProfile = .ok p) ↔
      .daylightHours ∉ s.violations ∧ .daylightOrder ∉ s.violations) ∧
    ((∃ p, s.productionProfile = .ok p) ↔ ∃ v w, s.production.sunrise.toRat? = some v ∧
      s.production.sunset.toRat? = some w ∧ 0 ≤ v ∧ v < w ∧ w ≤ 24) ∧
    Duration.ofWord (millisecondWord s.simulation.cycleSeconds) = .ok s.clock.period ∧
    ∀ u ∈ s.units, u.checkedTiming = .ok u.timing ∧
      ∃ energy, u.parameters.startEnergy = .ok energy := by
  have built : (∃ e, s.build = .ok (.ok e)) ↔ s.violations = [] := by
    constructor
    · rintro ⟨e, build⟩
      exact (build_eq_ok_iff.mp build).1
    · intro valid
      obtain ⟨e, build, -⟩ := build_ok valid
      exact ⟨e, build⟩
  have profile : (∃ p, s.productionProfile = .ok p) ↔
      ProductionProfile.isDaylight s.production.sunrise s.production.sunset = true :=
    ProductionProfile.create_eq_ok_iff
  refine ⟨?_, fun _ => build_eq_error_iff, built, ?_, ?_, Duration.ofWord_millisecondWord _,
    fun u _ => ⟨u.checkedTiming_eq, _, Battery.startEnergy_eq u.parameters⟩⟩
  · by_cases valid : s.violations = []
    · obtain ⟨e, build⟩ := built.mpr valid
      exact ⟨_, build⟩
    · exact ⟨_, build_eq_error_iff.mpr ⟨rfl, valid⟩⟩
  · rw [profile, ProductionSpec.isDaylight_iff, daylight_mem_violations (.inl rfl),
      daylight_mem_violations (.inr rfl)]
  · rw [profile, ProductionProfile.isDaylight_iff]

/-- The greatest capacity, cycle time, response time and timeout, and a full battery. -/
def extreme : Scenario :=
  { hybrid with
    simulation := { SimulationSpec.default with cycleSeconds := 18446744073709551615 }
    units := [{ UnitSpec.redox with
      capacity := 2147483647
      initialCharge := 100
      response := 18446744073709551615
      timeout := some 18446744073709551615 }, .lithium] }

/-- There is an engine for it, but none for one without a time of sunrise. -/
theorem build_answers_extreme :
    (∃ e, extreme.build = .ok (.ok e)) ∧
      extreme.clock.period = Duration.ofMilliseconds 9223372036854775807 ∧
      { extreme with production := { ProductionSpec.default with sunrise := .nan false } }.build =
        .ok (.error [.daylightHours]) := by
  obtain ⟨-, -, built, -⟩ := build_answers extreme
  obtain ⟨-, refused, -⟩ := build_answers
    { extreme with production := { ProductionSpec.default with sunrise := .nan false } }
  exact ⟨built.mpr (by decide +kernel), by decide, (refused _).mpr ⟨by decide +kernel, by decide⟩⟩

end Scenario

end HybridStorage
