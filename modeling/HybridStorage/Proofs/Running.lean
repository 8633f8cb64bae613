import HybridStorage.Proofs.Build
import HybridStorage.Proofs.Frame

/-!
# Runs of a scenario

Between two cycles of its run, the engine of a valid scenario has the units, the meter and the
profiles of the scenario, and every battery was last applied at the cycle before.
-/

namespace HybridStorage

namespace Clock

theorem tick_eq_ok_some_iff {c c' : Clock} {index : Nat} {now : Instant} :
    c.tick = .ok (some ((index, now), c')) ↔ c.current < c.total ∧ index = c.current ∧
      c.timeOf c.current = .ok now ∧ c' = { c with current := c.current + 1 } := by
  unfold tick
  split
  · next more =>
    rw [bind_eq_ok_iff]
    constructor
    · rintro ⟨_, time, same⟩
      cases same
      exact ⟨more, rfl, time, rfl⟩
    · rintro ⟨-, rfl, time, rfl⟩
      exact ⟨now, time, rfl⟩
  · next ended =>
    constructor
    · intro h
      cases h
    · rintro ⟨more, -⟩
      exact absurd more ended

/-- The time of the cycle before, if there is one. -/
def before (c : Clock) : Nat → Option Instant
  | 0 => none
  | k + 1 => (c.timeOf k).toOption

end Clock

theorem Battery.lastApplied_of_create {p : Parameters} {b : Battery} (h : create p = .ok b) :
    b.lastApplied = none := by
  obtain ⟨_, _, same⟩ := bind_eq_ok_iff.mp h
  cases same
  rfl

theorem Battery.lastApplied_of_serve {b b' : Battery} {now : Instant} {request : Option Watts}
    (h : b.serve now request = .ok b') : b'.lastApplied = some now := by
  obtain ⟨_, _, rfl⟩ := applyPending_eq_ok_iff.mp h
  rfl

theorem Battery.Bounded.onCycle {b : Battery} (bounded : b.Bounded) (now : Instant) :
    (b.onCycle now).Bounded :=
  bounded.step (.kept rfl rfl rfl rfl rfl)

theorem Battery.Bounded.answer {b : Battery} (bounded : b.Bounded) (now : Instant)
    (request : Option Watts) : (b.answer now request).Bounded := by
  cases request with
  | none => exact bounded
  | some request =>
    rw [answer_some]
    exact bounded.step (.kept rfl rfl rfl rfl rfl)

theorem Battery.Bounded.serve {b b' : Battery} {now : Instant} {request : Option Watts}
    (bounded : b.Bounded) (h : b.serve now request = .ok b') : b'.Bounded :=
  ((bounded.onCycle now).answer now request).step (changes_applyPending h)

/-- What holds of the battery under an identifier before the `k`-th cycle. -/
structure Scenario.Holds (s : Scenario) (k : Nat) (id : String) (b : Battery) : Prop where
  rested : b.Rested
  bounded : b.Bounded
  lastApplied : b.lastApplied = s.clock.before k
  idle : id ≠ s.controller.mainUnit → id ≠ s.controller.supportUnit → b.active = 0

/-- The site has exactly the units of the scenario. -/
structure Site.Stocked (s : Scenario) (k : Nat) (site : Site) : Prop where
  units : ∀ id, (site.unit? id).map (·.parameters) = (s.unit? id).map UnitSpec.parameters
  holds : ∀ id b, site.unit? id = some b → s.Holds k id b

/-- All but the clock of the engine of a scenario before the `k`-th cycle of its run. -/
structure Engine.Equipped (s : Scenario) (k : Nat) (e : Engine) : Prop where
  controller : ∃ energyStore powerStore,
    e.controller = { Controller.create s.controller with energyStore, powerStore }
  meter : ∃ power, e.site.meters.get? s.meter = some { id := s.meter, power }
  stocked : e.site.Stocked s k
  load : ∃ generator, e.load = { s.loadProfile with generator }
  production : ∃ p generator, s.productionProfile = .ok p ∧ e.production = { p with generator }

structure Engine.Running (s : Scenario) (k : Nat) (e : Engine) : Prop where
  clock : e.clock = { s.clock with current := k }
  equipped : e.Equipped s k

namespace Site

variable {s : Scenario} {k : Nat} {site site' : Site} {now : Instant}

/-- The battery under an identifier has the parameters of its unit. -/
theorem Stocked.unit (stocked : site.Stocked s k) {id : String} {u : UnitSpec}
    (found : s.unit? id = some u) : ∃ b, site.unit? id = some b ∧ b.parameters = u.parameters := by
  have units := stocked.units id
  rw [found, Option.map_some] at units
  exact Option.map_eq_some_iff.mp units

theorem stocked_of_build {e : Engine} (build : s.build = .ok (.ok e)) : e.site.Stocked s 0 := by
  refine ⟨(Scenario.builds_of_build build).units, ?_⟩
  intro id b found
  obtain ⟨u, -, created⟩ := Scenario.unit?_of_build build found
  exact ⟨Battery.rested_of_create created, Battery.bounded_of_create created,
    Battery.lastApplied_of_create created, fun _ _ => Battery.active_of_create created⟩

theorem Stocked.next (stocked : site.Stocked s k) (time : s.clock.timeOf k = .ok now)
    {outcome : Except DispatchError Outcome}
    (turns : ∀ id, (site.unit? id = none ∧ site'.unit? id = none) ∨ ∃ b b',
      site.unit? id = some b ∧ b.serve now (s.controller.asked outcome id) = .ok b' ∧
        site'.unit? id = some b') : site'.Stocked s (k + 1) := by
  refine ⟨?_, ?_⟩
  · intro id
    rw [← stocked.units id]
    rcases turns id with ⟨absent, still⟩ | ⟨before, after, present, turn, left⟩
    · rw [absent, still]
    · rw [present, left, Option.map_some, Option.map_some, Battery.parameters_of_serve turn]
  · intro id b found
    rcases turns id with ⟨-, absent⟩ | ⟨before, after, present, turn, left⟩
    · cases absent.symm.trans found
    · cases left.symm.trans found
      obtain ⟨rested, bounded, -, idle⟩ := stocked.holds id before present
      refine ⟨Battery.rested_of_serve rested turn, bounded.serve turn, ?_, ?_⟩
      · rw [Battery.lastApplied_of_serve turn, Clock.before, time]
        rfl
      · intro notMain notSupport
        rw [Settings.asked_of_other notMain notSupport] at turn
        obtain ⟨-, -, active⟩ := Battery.active_of_serve rested.pending turn
        exact active.trans (Battery.coerce_zero _)

end Site

theorem LoadProfile.demand_eq (p : LoadProfile) (now : Instant) :
    ∃ generator, (p.demand now).2 = { p with generator } := ⟨_, rfl⟩

theorem ProductionProfile.power_eq (p : ProductionProfile) (now : Instant) :
    ∃ generator, (p.power now).2 = { p with generator } := by
  dsimp only [power]
  split
  · exact ⟨p.generator, rfl⟩
  · exact ⟨_, rfl⟩

namespace Engine

variable {s : Scenario} {k : Nat} {e e' : Engine} {disk : Disk} {index : Nat} {now : Instant}
  {sample : Sample} {c : Cycled} {record : Record}

theorem running_of_build (build : s.build = .ok (.ok e)) : e.Running s 0 := by
  obtain ⟨units, meter, controller, load, production, clock⟩ := Scenario.builds_of_build build
  exact ⟨clock, ⟨_, _, controller⟩, ⟨none, meter⟩, Site.stocked_of_build build, ⟨_, load⟩,
    ⟨_, _, production, rfl⟩⟩

theorem Running.remaining (running : e.Running s 0) :
    e.clock.remaining = s.simulation.cycles.toNat := by
  rw [running.clock]
  rfl

theorem Running.enough (running : e.Running s 0) :
    e.clock.current + s.simulation.cycles.toNat ≤ e.clock.total := by
  rw [running.clock]
  exact Nat.le_of_eq (Nat.zero_add _)

theorem Equipped.settings (equipped : e.Equipped s k) : e.controller.settings = s.controller := by
  obtain ⟨_, _, controller⟩ := equipped.controller
  rw [controller]
  rfl

theorem meter_of_serve {meter : Meter} (serve : e.serve disk index now sample = .ok c)
    (found : e.site.meters.get? e.controller.settings.meter = some meter) :
    ∃ power, c.engine.site.meters.get? e.controller.settings.meter =
      some { meter with power } := by
  obtain ⟨_, metered, ran, _, serves⟩ := serves_of_serve serve
  obtain ⟨power, read⟩ := Site.meter_readMeter serves.reads found
  refine ⟨power, ?_⟩
  rw [Site.meters_applyPending serves.applies, (Controller.components_of_run serves.runs).1]
  exact read

theorem Equipped.serve (equipped : e.Equipped s k) (same : s.controller.meter = s.meter)
    (time : s.clock.timeOf k = .ok now)
    (serve : e.serve disk index now (e.sample now) = .ok c) : c.engine.Equipped s (k + 1) := by
  obtain ⟨_, _, ran, _, serves⟩ := serves_of_serve serve
  have reading : e.controller.settings.meter = s.meter :=
    (congrArg Settings.meter equipped.settings).trans same
  have meter := equipped.meter
  obtain ⟨_, _, controller⟩ := equipped.controller
  obtain ⟨_, _, after⟩ := Controller.controller_of_run serves.runs
  obtain ⟨_, load⟩ := equipped.load
  obtain ⟨_, demanded⟩ := e.load.demand_eq now
  obtain ⟨p, _, made, production⟩ := equipped.production
  obtain ⟨_, produced⟩ := e.production.power_eq now
  have turns := unit?_of_serve serve
  rw [equipped.settings] at turns
  refine ⟨?_, ?_, equipped.stocked.next time turns, ?_, ?_⟩
  · rw [serves.engine_eq]
    rw [controller] at after
    exact ⟨_, _, after⟩
  · obtain ⟨_, meter⟩ := equipped.meter
    rw [← reading] at meter
    obtain ⟨power, meter'⟩ := meter_of_serve serve meter
    rw [reading] at meter'
    exact ⟨power, meter'⟩
  · rw [serves.engine_eq]
    exact ⟨_, demanded.trans (by rw [load])⟩
  · rw [serves.engine_eq]
    exact ⟨p, _, made, produced.trans (by rw [production])⟩

/-- The engine once its clock has told the time of a cycle. -/
def ticked (e : Engine) : Engine :=
  { e with clock := { e.clock with current := e.clock.current + 1 } }

theorem Equipped.ticked (equipped : e.Equipped s k) : e.ticked.Equipped s k :=
  { equipped with }

theorem step_eq_ok_some_iff : e.step disk = .ok (some (record, e')) ↔
    e.clock.current < e.clock.total ∧ ∃ now c, e.clock.timeOf e.clock.current = .ok now ∧
      e.ticked.serve disk e.clock.current now (e.ticked.sample now) = .ok c ∧
      c.record = record ∧ c.engine = e' := by
  rw [step, bind_eq_ok_iff]
  constructor
  · rintro ⟨_ | ⟨⟨index, now⟩, clock⟩, ticked, h⟩
    · cases h
    · simp only [cycle, bind_eq_ok_iff] at h
      obtain ⟨more, rfl, time, rfl⟩ := Clock.tick_eq_ok_some_iff.mp ticked
      obtain ⟨_, ⟨c, served, same⟩, h⟩ := h
      cases same
      cases h
      exact ⟨more, now, c, time, served, rfl, rfl⟩
  · rintro ⟨more, now, c, time, served, rfl, rfl⟩
    refine ⟨_, Clock.tick_eq_ok_some_iff.mpr ⟨more, rfl, time, rfl⟩, ?_⟩
    simp only [cycle, bind_eq_ok_iff]
    exact ⟨_, ⟨c, served, rfl⟩, rfl⟩

/-- The cycles that an engine serves one after the other for what its own profiles answer. -/
inductive Runs (disk : Disk) : Engine → List Cycled → Engine → Prop where
  | done (e : Engine) : Runs disk e [] e
  | cycled {e e' : Engine} {now : Instant} {c : Cycled} {cycles : List Cycled}
      (more : e.clock.current < e.clock.total) (time : e.clock.timeOf e.clock.current = .ok now)
      (serve : e.ticked.serve disk e.clock.current now (e.ticked.sample now) = .ok c)
      (rest : Runs disk c.engine cycles e') : Runs disk e (c :: cycles) e'

theorem clock_of_serve (serve : e.serve disk index now sample = .ok c) :
    c.engine.clock = e.clock := by
  obtain ⟨_, _, _, _, serves⟩ := serves_of_serve serve
  rw [serves.engine_eq]

theorem runs_of_steps {n : Nat} {records : List Record} (h : e.steps disk n = .ok (records, e'))
    (enough : e.clock.current + n ≤ e.clock.total) :
    ∃ cycles, Runs disk e cycles e' ∧ cycles.length = n ∧ cycles.map (·.record) = records := by
  induction n generalizing e records with
  | zero =>
    cases h
    exact ⟨[], .done _, rfl, rfl⟩
  | succ n ih =>
    rw [steps, bind_eq_ok_iff] at h
    obtain ⟨_ | ⟨record, between⟩, stepped, h⟩ := h
    · -- The clock does not run out before `n` cycles.
      rw [step, bind_eq_ok_iff] at stepped
      obtain ⟨_ | ⟨⟨index, now⟩, clock⟩, ticked, stepped⟩ := stepped
      · rw [Clock.tick, if_pos (by omega)] at ticked
        obtain ⟨_, _, same⟩ := bind_eq_ok_iff.mp ticked
        cases same
      · obtain ⟨_, _, same⟩ := bind_eq_ok_iff.mp stepped
        cases same
    · obtain ⟨⟨rest, last⟩, others, same⟩ := bind_eq_ok_iff.mp h
      cases same
      obtain ⟨more, now, c, time, serve, rfl, rfl⟩ := step_eq_ok_some_iff.mp stepped
      have next : c.engine.clock.current + n ≤ c.engine.clock.total := by
        rw [clock_of_serve serve, ticked]
        dsimp only
        omega
      obtain ⟨cycles, runs, length, told⟩ := ih others next
      exact ⟨c :: cycles, .cycled more time serve runs, congrArg (· + 1) length,
        congrArg (c.record :: ·) told⟩

theorem Running.next (running : e.Running s k) (same : s.controller.meter = s.meter)
    (time : s.clock.timeOf k = .ok now)
    (serve : e.ticked.serve disk k now (e.ticked.sample now) = .ok c) :
    c.engine.Running s (k + 1) := by
  refine ⟨?_, ?_⟩
  · rw [clock_of_serve serve, ticked, running.clock]
  · exact running.equipped.ticked.serve same time serve

theorem Running.step (running : e.Running s k) (more : k < s.simulation.cycles.toNat)
    (time : s.clock.timeOf k = .ok now)
    (serve : e.ticked.serve disk k now (e.ticked.sample now) = .ok c) :
    e.step disk = .ok (some (c.record, c.engine)) := by
  rw [step_eq_ok_some_iff, running.clock]
  exact ⟨more, now, c, time, serve, rfl, rfl⟩

theorem cycle_of_serve (serve : e.serve disk index now sample = .ok c) :
    c.record.cycle = index := by
  obtain ⟨_, _, _, _, serves⟩ := serves_of_serve serve
  rw [serves.record_eq, Record.cycle_withOutcome]

theorem Running.cycles_eq {cycles : List Cycled} (running : e.Running s k)
    (same : s.controller.meter = s.meter) (runs : Runs disk e cycles e') :
    cycles.map (·.record.cycle) = List.range' k cycles.length := by
  induction runs generalizing k with
  | done => rfl
  | cycled _ time serve rest ih =>
    rw [running.clock] at time serve
    rw [List.map_cons, cycle_of_serve serve, ih (running.next same time serve)]
    rfl

/-- What every cycle of a running engine has, the cycles of its run have. -/
theorem Running.forall_cycles {P : Cycled → Prop} {cycles : List Cycled} (running : e.Running s k)
    (same : s.controller.meter = s.meter) (runs : Runs disk e cycles e')
    (cycle : ∀ (k : Nat) (e : Engine) (now : Instant) (c : Cycled), e.Equipped s k →
      s.clock.timeOf k = .ok now → e.serve disk k now (e.sample now) = .ok c → P c) :
    ∀ c ∈ cycles, P c := by
  induction runs generalizing k with
  | done => exact fun c member => nomatch member
  | @cycled e _ now c _ _ time serve rest ih =>
    rw [running.clock] at time serve
    have others := ih (running.next same time serve)
    have first := cycle k e.ticked now c running.equipped.ticked time serve
    exact List.forall_mem_cons.mpr ⟨first, others⟩

end Engine

end HybridStorage
