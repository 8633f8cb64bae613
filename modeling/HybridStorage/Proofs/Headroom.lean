import HybridStorage.Proofs.Applications
import HybridStorage.Proofs.Profiles
import HybridStorage.Proofs.Requests
import HybridStorage.Proofs.Running
import HybridStorage.Proofs.Timeline
import HybridStorage.Proofs.Totals

/-!
# Headroom of scenarios

Every valid scenario has an engine, but not every engine gets through its run: powers, energies and
times are bounded by nothing that makes a scenario valid. With headroom for them no cycle faults.
-/

namespace HybridStorage

/-- The unit can be drained, and filled on top of its capacity, for some time at its full powers
before 64 bits run out. -/
structure UnitSpec.Lasts (u : UnitSpec) (milliseconds : Int) : Prop where
  drained : u.maxDischarge.toInt * milliseconds ≤ 9223372036854775807
  filled : u.maxCharge.toInt * milliseconds + u.capacity.toInt * 3600000 ≤ 9223372036854775807

namespace Scenario

/-- The milliseconds from one cycle to the next. -/
def milliseconds (s : Scenario) : Int := s.clock.period.milliseconds

/-- Readings, energies and times suffice for two units of the controller and a net load between a
surplus and a demand. -/
structure Headroom (s : Scenario) (main support : UnitSpec) (surplus demand : Int) : Prop where
  calendar : ∃ time, s.clock.timeOf (s.simulation.cycles.toNat - 1) = .ok time
  charging : demand + main.maxCharge.toInt + support.maxCharge.toInt ≤ 2147483647
  discharging : surplus + main.maxDischarge.toInt + support.maxDischarge.toInt ≤ 2147483648
  /-- The main unit may still discharge while the site charges. -/
  turning : s.controller.maxGridPower.toInt + surplus + main.maxDischarge.toInt ≤ 2147483644
  mainLasts : main.Lasts s.milliseconds
  supportLasts : support.Lasts s.milliseconds

/-- The load less the production that the profiles answer at an instant, in some states of their
generators. -/
def netLoad (s : Scenario) (p : ProductionProfile) (now : Instant)
    (g g' : ChaCha.Generator) : Int :=
  ({ s.loadProfile with generator := g }.demand now).1.toInt -
    ({ p with generator := g' }.power now).1.toInt

/-- Whatever noise the profiles draw, the net load of every cycle lies between the two. -/
def NetLoadWithin (s : Scenario) (surplus demand : Int) : Prop :=
  ∀ (k : Nat) (now : Instant) (p : ProductionProfile) (g g' : ChaCha.Generator),
    k < s.simulation.cycles.toNat → s.clock.timeOf k = .ok now → s.productionProfile = .ok p →
      -surplus ≤ s.netLoad p now g g' ∧ s.netLoad p now g g' ≤ demand

theorem Quiet.netLoadWithin {s : Scenario} (quiet : s.Quiet) {demand : Int}
    (base : ∀ swing ∈ zeroProducts,
      0 ≤ (Watts.ofFloat (s.loadProfile.base + swing + 0.0)).toInt ∧
        (Watts.ofFloat (s.loadProfile.base + swing + 0.0)).toInt ≤ demand) :
    s.NetLoadWithin 0 demand := by
  intro k now p g g' more time made
  obtain ⟨swing, product, load⟩ := quiet.demand g now
  obtain ⟨low, high⟩ := base swing product
  rw [netLoad, load, quiet.power more time made, Int32.toInt_zero, Int.neg_zero, Int.sub_zero]
  exact ⟨low, high⟩

theorem nanos_clock {s : Scenario} (sound : s.Sound) : 1000000000 ≤ s.clock.nanos := by
  have some : s.simulation.cycleSeconds.toNat ≠ 0 := fun none =>
    sound.cycleTime (UInt64.toNat_inj.mp none)
  unfold Clock.nanos clock Duration.cutSeconds Duration.cutMilliseconds Duration.ofMilliseconds
    longestMilliseconds
  dsimp only
  omega

/-- What a battery integrates in a run is at most the time of a cycle. -/
theorem Holds.elapsed_le {s : Scenario} {k : Nat} {id : String} {b : Battery} {now : Instant}
    (holds : s.Holds k id b) (sound : s.Sound) (time : s.clock.timeOf k = .ok now) :
    b.elapsed now ≤ s.milliseconds := by
  have long := nanos_clock sound
  have nonneg : 0 ≤ s.milliseconds := Int.tdiv_nonneg (Int.le_trans (by decide) long) (by decide)
  rw [Battery.elapsed, holds.lastApplied]
  cases k with
  | zero => exact nonneg
  | succ k =>
    cases earlier : s.clock.timeOf k with
    | error fault =>
      rw [Clock.before, earlier]
      exact nonneg
    | ok last =>
      rw [Clock.before, earlier]
      have passed := Clock.since_le long earlier time
      exact Int.max_le.mpr ⟨Int.tdiv_le_tdiv (by decide) passed, nonneg⟩

theorem Holds.active_within {s : Scenario} {k : Nat} {id : String} {b : Battery} {u : UnitSpec}
    (holds : s.Holds k id b) (parameters : b.parameters = u.parameters) (sound : u.Sound) :
    -u.maxCharge.toInt ≤ b.active.toInt ∧ b.active.toInt ≤ u.maxDischarge.toInt := by
  have above := holds.rested.above
  have below := holds.rested.below
  rw [parameters] at above below
  change (PowerLimits.ofMagnitudes u.maxCharge u.maxDischarge).charge.toInt ≤ _ at above
  change _ ≤ (PowerLimits.ofMagnitudes u.maxCharge u.maxDischarge).discharge.toInt at below
  obtain ⟨charge, discharge⟩ :=
    PowerLimits.toInt_ofMagnitudes sound.maxCharge sound.maxDischarge
  rw [charge] at above
  rw [discharge] at below
  exact ⟨above, below⟩

theorem Holds.integrate_ok {s : Scenario} {k : Nat} {id : String} {b : Battery} {now : Instant}
    {u : UnitSpec} (holds : s.Holds k id b) (sound : s.Sound) (time : s.clock.timeOf k = .ok now)
    (parameters : b.parameters = u.parameters) (unit : u.Sound) (lasts : u.Lasts s.milliseconds) :
    ∃ state, b.integrate now = .ok state := by
  obtain ⟨above, below⟩ := holds.active_within parameters unit
  have full : b.parameters.fullEnergy = u.capacity.toInt * 3600000 := by
    rw [parameters]
    have positive := unit.capacity
    change max u.capacity.toInt 0 * 3600000 = _
    omega
  have filled := lasts.filled
  rw [← full] at filled
  exact Battery.integrate_ok holds.bounded above below unit.maxCharge unit.maxDischarge
    (holds.elapsed_le sound time) lasts.drained filled

/-- A battery that delivers nothing integrates nothing. -/
theorem Holds.integrate_ok_of_idle {s : Scenario} {k : Nat} {id : String} {b : Battery}
    (holds : s.Holds k id b) (idle : b.active = 0) (now : Instant) :
    ∃ state, b.integrate now = .ok state := by
  have zero : b.active.toInt = 0 := by rw [idle, Int32.toInt_zero]
  have full := Battery.fullEnergy_le b.parameters
  exact Battery.integrate_ok holds.bounded (Int.le_of_eq zero.symm) (Int.le_of_eq zero)
    (Int.le_refl 0) (Int.le_refl 0) (Int.le_refl _) (by omega) (by omega)

end Scenario

namespace Site

variable {s : Scenario} {k : Nat} {site : Site} {now : Instant} {main support : UnitSpec}
  {surplus demand : Int}

theorem totalPower_startCycle (site : Site) (now : Instant) :
    (site.startCycle now).totalPower = site.totalPower := by
  simp [totalPower, startCycle, Roster.values, Roster.map, Battery.onCycle, Function.comp_def]

theorem readMeter_ok {id : String} {load : Watts}
    (fits : ∀ total, site.totalPower = some total →
      Reading.Fits (load.toInt - total.toInt)) :
    ∃ metered, site.readMeter id load = .ok metered := by
  unfold readMeter
  split
  · exact ⟨_, rfl⟩
  · split
    · exact ⟨_, rfl⟩
    · next total known =>
      obtain ⟨power, left⟩ := Reading.sub_ok (fits total known)
      exact ⟨_, bind_eq_ok_iff.mpr ⟨power, left, rfl⟩⟩

/-- All that the units deliver together is within the powers of the two that the controller uses. -/
theorem Stocked.totalPower_within (stocked : site.Stocked s k) (sound : s.Sound)
    (foundMain : s.unit? s.controller.mainUnit = some main)
    (foundSupport : s.unit? s.controller.supportUnit = some support) :
    ∃ total, site.totalPower = some total ∧
      -(main.maxCharge.toInt + support.maxCharge.toInt) ≤ total.toInt ∧
      total.toInt ≤ main.maxDischarge.toInt + support.maxDischarge.toInt := by
  have mainSound := sound.units main (Scenario.mem_of_unit? foundMain).1
  have supportSound := sound.units support (Scenario.mem_of_unit? foundSupport).1
  obtain ⟨a, presentA, parametersA⟩ := stocked.unit foundMain
  obtain ⟨b, presentB, parametersB⟩ := stocked.unit foundSupport
  obtain ⟨lowA, highA⟩ := (stocked.holds _ a presentA).active_within parametersA mainSound
  obtain ⟨lowB, highB⟩ := (stocked.holds _ b presentB).active_within parametersB supportSound
  have total := totalPower_of_two sound.different presentA presentB fun id x found =>
    (stocked.holds id x found).idle
  refine ⟨_, total, ?_⟩
  have mainCharge := mainSound.maxCharge
  have mainDischarge := mainSound.maxDischarge
  have supportCharge := supportSound.maxCharge
  have supportDischarge := supportSound.maxDischarge
  rw [Reading.toInt_satAdd]
  unfold Reading.lowest Reading.highest
  omega

/-- With headroom the grid can carry any net load that is expected. -/
theorem Stocked.grid_fits (stocked : site.Stocked s k) (sound : s.Sound)
    (foundMain : s.unit? s.controller.mainUnit = some main)
    (foundSupport : s.unit? s.controller.supportUnit = some support)
    (room : s.Headroom main support surplus demand) {net : Watts}
    (within : -surplus ≤ net.toInt ∧ net.toInt ≤ demand) {total : Watts}
    (known : site.totalPower = some total) : Reading.Fits (net.toInt - total.toInt) := by
  obtain ⟨_, known', low, high⟩ := stocked.totalPower_within sound foundMain foundSupport
  cases known.symm.trans known'
  have charging := room.charging
  have discharging := room.discharging
  rw [Reading.fits_iff]
  omega

theorem Stocked.integrate_ok (stocked : site.Stocked s k) (sound : s.Sound)
    (foundMain : s.unit? s.controller.mainUnit = some main)
    (foundSupport : s.unit? s.controller.supportUnit = some support)
    (room : s.Headroom main support surplus demand) (time : s.clock.timeOf k = .ok now)
    {id : String} {b : Battery} (found : site.unit? id = some b) :
    ∃ state, b.integrate now = .ok state := by
  have holds := stocked.holds id b found
  by_cases isMain : id = s.controller.mainUnit
  · obtain ⟨a, present, parameters⟩ := stocked.unit foundMain
    rw [isMain] at found
    cases present.symm.trans found
    exact holds.integrate_ok sound time parameters
      (sound.units main (Scenario.mem_of_unit? foundMain).1) room.mainLasts
  · by_cases isSupport : id = s.controller.supportUnit
    · obtain ⟨a, present, parameters⟩ := stocked.unit foundSupport
      rw [isSupport] at found
      cases present.symm.trans found
      exact holds.integrate_ok sound time parameters
        (sound.units support (Scenario.mem_of_unit? foundSupport).1) room.supportLasts
    · exact holds.integrate_ok_of_idle (holds.idle isMain isSupport) now

end Site

def midnight : Instant :=
  { SimulationSpec.defaultStart with
    second := 0
    second_lt := by decide
    leap := fun long => absurd long (by decide) }

namespace Engine

variable {s : Scenario} {k : Nat} {e : Engine} {disk : Disk} {now : Instant}
  {main support : UnitSpec} {surplus demand : Int}

theorem Equipped.netLoad_eq (equipped : e.Equipped s k) (now : Instant) :
    ∃ p g g', s.productionProfile = .ok p ∧
      (e.sample now).load.toInt - (e.sample now).production.toInt = s.netLoad p now g g' := by
  obtain ⟨g, load⟩ := equipped.load
  obtain ⟨p, g', made, production⟩ := equipped.production
  refine ⟨p, g, g', made, ?_⟩
  change (e.load.demand now).1.toInt - (e.production.power now).1.toInt = _
  rw [load, production]
  rfl

theorem Equipped.table (equipped : e.Equipped s k) : e.controller.table = .default := by
  obtain ⟨_, _, controller⟩ := equipped.controller
  rw [controller]
  rfl

theorem Equipped.control_ok (equipped : e.Equipped s k) (sound : s.Sound)
    (foundMain : s.unit? s.controller.mainUnit = some main)
    (room : s.Headroom main support surplus demand) {net : Watts} (within : -surplus ≤ net.toInt)
    {metered : Site}
    (reads : (e.site.startCycle now).readMeter s.controller.meter net = .ok metered)
    (disk : Disk) :
    ∃ ran, e.controller.run disk metered (aggregates (e.site.startCycle now) net) now = .ok ran := by
  have mainSound := sound.units main (Scenario.mem_of_unit? foundMain).1
  have gridPower := sound.gridPower
  have started : ∀ id b, metered.unit? id = some b →
      b.Bounded ∧ ∃ before : Battery, b = before.onCycle now := by
    intro id b found
    rw [unit?_of_readMeter reads] at found
    obtain ⟨before, present, rfl⟩ := Option.map_eq_some_iff.mp found
    have holds := equipped.stocked.holds id before present
    exact ⟨holds.bounded.step (.kept rfl rfl rfl rfl rfl), before, rfl⟩
  have turning : ∀ b, metered.unit? s.controller.mainUnit = some b → net.toInt ≤ 0 →
      s.controller.maxGridPower.toInt - net.toInt + b.parameters.limits.discharge.toInt ≤
        2147483644 := by
    intro b found _
    obtain ⟨before, present, parameters⟩ := equipped.stocked.unit foundMain
    rw [unit?_of_readMeter reads, present] at found
    cases found
    have limit := (PowerLimits.toInt_ofMagnitudes mainSound.maxCharge mainSound.maxDischarge).2
    change s.controller.maxGridPower.toInt - net.toInt +
      before.parameters.limits.discharge.toInt ≤ 2147483644
    rw [parameters]
    change s.controller.maxGridPower.toInt - net.toInt +
      (PowerLimits.ofMagnitudes main.maxCharge main.maxDischarge).discharge.toInt ≤ 2147483644
    have most := room.turning
    omega
  rw [← equipped.settings] at gridPower turning
  exact Controller.run_ok equipped.table gridPower rfl rfl started turning

/-- With headroom for the net load of a cycle, the cycle does not fault. -/
theorem Equipped.serve_ok (equipped : e.Equipped s k) (sound : s.Sound)
    (foundMain : s.unit? s.controller.mainUnit = some main)
    (foundSupport : s.unit? s.controller.supportUnit = some support)
    (room : s.Headroom main support surplus demand) (within : s.NetLoadWithin surplus demand)
    (more : k < s.simulation.cycles.toNat) (time : s.clock.timeOf k = .ok now) (disk : Disk) :
    ∃ c, e.serve disk k now (e.sample now) = .ok c := by
  obtain ⟨p, g, g', made, answered⟩ := equipped.netLoad_eq now
  have bounds := within k now p g g' more time made
  rw [← answered] at bounds
  have mainSound := sound.units main (Scenario.mem_of_unit? foundMain).1
  have supportSound := sound.units support (Scenario.mem_of_unit? foundSupport).1
  -- The load less the production fits, for there is room even for the units on top of it.
  obtain ⟨net, netted⟩ : ∃ net, Reading.sub (e.sample now).load (e.sample now).production =
      .ok net := by
    apply Reading.sub_ok
    have charging := room.charging
    have discharging := room.discharging
    have mainCharge := mainSound.maxCharge
    have mainDischarge := mainSound.maxDischarge
    have supportCharge := supportSound.maxCharge
    have supportDischarge := supportSound.maxDischarge
    rw [Reading.fits_iff]
    omega
  rw [← Reading.sub_eq_ok_iff.mp netted] at bounds
  have grid {j : Nat} {site : Site} (stocked : site.Stocked s j) {total : Watts}
      (known : site.totalPower = some total) : Reading.Fits (net.toInt - total.toInt) :=
    stocked.grid_fits sound foundMain foundSupport room bounds known
  obtain ⟨metered, reads⟩ : ∃ metered,
      (e.site.startCycle now).readMeter s.controller.meter net = .ok metered := by
    apply Site.readMeter_ok
    rw [Site.totalPower_startCycle]
    exact fun total known => grid equipped.stocked known
  obtain ⟨ran, runs⟩ := equipped.control_ok sound foundMain room bounds.1 reads disk
  obtain ⟨site, applies⟩ : ∃ site, ran.plant.applyPending now = .ok site := by
    apply Site.applyPending_ok
    intro id b found
    rw [Controller.unit?_of_run runs, unit?_of_readMeter reads, Option.map_map] at found
    obtain ⟨before, present, rfl⟩ := Option.map_eq_some_iff.mp found
    obtain ⟨state, integrated⟩ :=
      equipped.stocked.integrate_ok sound foundMain foundSupport room time present
    exact ⟨state, (Battery.integrate_answer _ _ _).trans integrated⟩
  have turns := unit?_of_applied (unit?_of_readMeter reads) runs (fun _ => rfl) applies
  rw [equipped.settings] at turns
  have stocked := equipped.stocked.next time turns
  obtain ⟨total, known, -⟩ := stocked.totalPower_within sound foundMain foundSupport
  obtain ⟨power, balanced⟩ := Reading.sub_ok (grid stocked known)
  have control : e.control disk now net = .ok ran := by
    rw [← equipped.settings] at reads
    exact bind_eq_ok_iff.mpr ⟨metered, reads, runs⟩
  refine ⟨_, bind_eq_ok_iff.mpr ⟨net, netted, bind_eq_ok_iff.mpr ⟨ran, control,
    bind_eq_ok_iff.mpr ⟨site, applies, bind_eq_ok_iff.mpr ⟨power, ?_, rfl⟩⟩⟩⟩⟩
  rw [known]
  exact balanced

theorem Running.steps_ok {n : Nat} (running : e.Running s k) (sound : s.Sound)
    (foundMain : s.unit? s.controller.mainUnit = some main)
    (foundSupport : s.unit? s.controller.supportUnit = some support)
    (room : s.Headroom main support surplus demand) (within : s.NetLoadWithin surplus demand)
    (enough : k + n ≤ s.simulation.cycles.toNat) (disk : Disk) :
    ∃ records e', e.steps disk n = .ok (records, e') ∧ records.length = n := by
  induction n generalizing e k with
  | zero => exact ⟨[], e, rfl, rfl⟩
  | succ n ih =>
    have more : k < s.simulation.cycles.toNat := by omega
    -- The calendar has the last cycle, so it has this one.
    obtain ⟨_, last⟩ := room.calendar
    obtain ⟨now, time⟩ := Clock.timeOf_ok (Scenario.nanos_clock sound) last (k := k) (by omega)
    obtain ⟨c, serve⟩ := running.equipped.ticked.serve_ok sound foundMain foundSupport room within
      more time disk
    have step := running.step more time serve
    obtain ⟨records, e', rest, length⟩ := ih (running.next sound.meter time serve) (by omega)
    exact ⟨c.record :: records, e', bind_eq_ok_iff.mpr ⟨_, step, bind_eq_ok_iff.mpr ⟨_, rest, rfl⟩⟩,
      congrArg (· + 1) length⟩

theorem run_ok (build : s.build = .ok (.ok e))
    (foundMain : s.unit? s.controller.mainUnit = some main)
    (foundSupport : s.unit? s.controller.supportUnit = some support)
    (room : s.Headroom main support surplus demand) (within : s.NetLoadWithin surplus demand)
    (disk : Disk) : ∃ records e', e.run disk = .ok (records, e') ∧
      records.length = s.simulation.cycles.toNat := by
  have sound := Scenario.sound (Scenario.build_eq_ok_iff.mp build).1
  have running := running_of_build build
  rw [run, running.remaining]
  exact running.steps_ok sound foundMain foundSupport room within
    (Nat.le_of_eq (Nat.zero_add _)) disk

/-- The engine of a valid scenario can be built, and where there is headroom for the net load of its
profiles it gets through all cycles. -/
theorem valid_scenario_runs {s : Scenario} (valid : s.violations = []) :
    ∃ e main support, s.build = .ok (.ok e) ∧ s.unit? s.controller.mainUnit = some main ∧
      s.unit? s.controller.supportUnit = some support ∧
      ∀ surplus demand, s.Headroom main support surplus demand → s.NetLoadWithin surplus demand →
        ∀ disk, ∃ records e', e.run disk = .ok (records, e') ∧
          records.length = s.simulation.cycles.toNat := by
  have sound := Scenario.sound valid
  obtain ⟨e, build, -⟩ := Scenario.build_ok valid
  obtain ⟨main, foundMain⟩ := Scenario.unit?_of_mem sound.main
  obtain ⟨support, foundSupport⟩ := Scenario.unit?_of_mem sound.support
  refine ⟨e, main, support, build, foundMain, foundSupport, ?_⟩
  intro surplus demand room within disk
  exact run_ok build foundMain foundSupport room within disk

/-- Three minutes after midnight with a load of 80 kW. -/
def nightScenario : Scenario :=
  { Scenario.hybrid with
    simulation := { SimulationSpec.default with start := midnight, cycles := 3 }
    load := { LoadSpec.default with amplitude := .ofNat 0, deviation := .ofNat 0 } }

theorem night_headroom : nightScenario.Headroom .redox .lithium 0 80000 where
  calendar := ⟨_, rfl⟩
  charging := by decide
  discharging := by decide
  turning := by decide
  mainLasts := by constructor <;> decide
  supportLasts := by constructor <;> decide

theorem night_quiet : nightScenario.Quiet where
  steady := by decide +kernel
  noiseless := by decide +kernel
  dark := by decide +kernel

theorem night_netLoadWithin : nightScenario.NetLoadWithin 0 80000 :=
  night_quiet.netLoadWithin (by decide +kernel)

theorem valid_scenario_runs_night : ∃ e records e', nightScenario.build = .ok (.ok e) ∧
    e.run .empty = .ok (records, e') ∧ records.length = 3 := by
  obtain ⟨e, main, support, build, foundMain, foundSupport, runs⟩ :=
    valid_scenario_runs (s := nightScenario) (by decide +kernel)
  cases foundMain
  cases foundSupport
  obtain ⟨records, e', run, length⟩ := runs 0 80000 night_headroom night_netLoadWithin .empty
  exact ⟨e, records, e', build, run, length⟩

/-- Two cycles thirty thousand years apart, in which two nearly empty units charge. -/
def eonScenario : Scenario :=
  { nightScenario with
    simulation :=
      { SimulationSpec.default with
        start := midnight, cycleSeconds := 1000000000000, cycles := 2 }
    units := [{ UnitSpec.default with initialCharge := 5 },
      { UnitSpec.default with id := "ess1", initialCharge := 5 }]
    load := { nightScenario.load with base := .ofNat 0 } }

theorem eon_quiet : eonScenario.Quiet where
  steady := by decide +kernel
  noiseless := by decide +kernel
  dark := by decide +kernel

theorem eon_sample (equipped : e.Equipped eonScenario k) (more : k < 2)
    (time : eonScenario.clock.timeOf k = .ok now) :
    e.sample now = ⟨0, 0, e.load, e.production⟩ := by
  obtain ⟨g, load⟩ := equipped.load
  obtain ⟨p, g', made, production⟩ := equipped.production
  obtain ⟨swing, product, demanded⟩ := eon_quiet.demand g now
  have none : ∀ swing ∈ zeroProducts,
      Watts.ofFloat (eonScenario.loadProfile.base + swing + 0.0) = 0 := by decide +kernel
  rw [none swing product] at demanded
  have produced := eon_quiet.power more time made g'
  rw [sample, load, production, demanded, produced]

theorem eon_serveProduction {c : Cycled} (running : e.Running eonScenario k) (more : k < 2)
    (time : eonScenario.clock.timeOf k = .ok now)
    (serve : e.ticked.serve .empty k now (e.ticked.sample now) = .ok c) :
    e.serveProduction 0 = some c := by
  rw [eon_sample running.equipped.ticked more time] at serve
  have clock := running.clock
  have serves : e.serveNext .empty ⟨0, 0, e.load, e.production⟩ = .ok (some c) := by
    refine serveNext_eq_ok_some_iff.mpr ⟨k, now, _, Clock.tick_eq_ok_some_iff.mpr ?_, serve⟩
    rw [clock]
    exact ⟨more, rfl, time, rfl⟩
  rw [serveProduction, serves]
  rfl

/-- The energy that the units take up until the second cycle is beyond 64 bits. -/
theorem valid_scenario_not_always_runs : ¬∀ s : Scenario, s.violations = [] →
    ∀ disk, ∃ e records e', s.build = .ok (.ok e) ∧ e.run disk = .ok (records, e') := by
  intro always
  obtain ⟨e, records, e', build, run⟩ := always eonScenario (by decide +kernel) .empty
  have running := running_of_build build
  rw [Engine.run, running.remaining] at run
  obtain ⟨cycles, runs, length, -⟩ := runs_of_steps run running.enough
  cases runs with
  | done => cases length
  | @cycled _ _ _ c₀ _ _ time₀ serve₀ rest =>
    rw [running.clock] at time₀ serve₀
    have next := running.next rfl time₀ serve₀
    have first := eon_serveProduction running (by decide) time₀ serve₀
    cases rest with
    | done => cases length
    | cycled _ time₁ serve₁ _ =>
      rw [next.clock] at time₁ serve₁
      have second := eon_serveProduction next (by decide) time₁ serve₁
      have trace : ((eonScenario.build.toOption.bind Except.toOption).bind fun e =>
          (e.serveProduction 0).bind fun c => c.engine.serveProduction 0).isNone = true := by
        decide +kernel
      have built : eonScenario.build.toOption.bind Except.toOption = some e := by
        rw [build]
        rfl
      rw [built, Option.bind_some, first, Option.bind_some, second] at trace
      cases trace

end Engine

end HybridStorage
