import HybridStorage.Proofs.Headroom
import HybridStorage.Proofs.Independence

/-!
# Order of the units

A cycle goes through the units of the site five times, and each time they may come in another order.
Totals stop at the bounds of a reading on the way, so the order could matter. It does not for the
engine of a scenario, since no unit but the two of the controller ever has a power other than zero.
-/

namespace HybridStorage

/-- An order in which to go through the units, whichever there are. -/
structure Traversal where
  arrange : Roster Battery → Roster Battery
  perm : ∀ r, (arrange r).entries.Perm r.entries

def Traversal.asInserted : Traversal := ⟨id, fun _ => .refl _⟩

def Traversal.reversed : Traversal where
  arrange r := ⟨r.entries.reverse, (r.entries.reverse_perm.map Prod.fst).nodup_iff.mpr r.nodup⟩
  perm r := r.entries.reverse_perm

/-- The orders in which a cycle goes through the units. -/
structure CycleOrders where
  start : Traversal
  power : Traversal
  capacity : Traversal
  pair : Traversal
  application : Traversal

def CycleOrders.all (t : Traversal) : CycleOrders := ⟨t, t, t, t, t⟩

namespace Site

def inOrder (s : Site) (t : Traversal) : Site := { s with units := t.arrange s.units }

/-- The same meters, and the same units under the same identifiers. -/
structure Matches (s₁ s₂ : Site) : Prop where
  units : s₁.unit? = s₂.unit?
  meters : s₁.meters = s₂.meters

/-- No unit but these two has a power. -/
structure Paired (s : Site) (first second : String) : Prop where
  different : first ≠ second
  hasFirst : ∃ b, s.unit? first = some b
  hasSecond : ∃ b, s.unit? second = some b
  others : ∀ id b, s.unit? id = some b → id ≠ first → id ≠ second → b.active = 0

theorem matches_inOrder (s : Site) (t : Traversal) : (s.inOrder t).Matches s where
  units := funext (Roster.get?_of_perm (t.perm s.units))
  meters := rfl

variable {s s₁ s₂ s₃ : Site} {now : Instant}

theorem Matches.symm (same : s₁.Matches s₂) : s₂.Matches s₁ :=
  ⟨same.units.symm, same.meters.symm⟩

theorem Matches.trans (same : s₁.Matches s₂) (same' : s₂.Matches s₃) : s₁.Matches s₃ :=
  ⟨same.units.trans same'.units, same.meters.trans same'.meters⟩

/-- Sites that match do so in whatever orders their units are gone through. -/
theorem Matches.inOrder (same : s₁.Matches s₂) (t t' : Traversal) :
    (s₁.inOrder t).Matches (s₂.inOrder t') :=
  (s₁.matches_inOrder t).trans (same.trans (s₂.matches_inOrder t').symm)

theorem Matches.startCycle (same : s₁.Matches s₂) (now : Instant) :
    (s₁.startCycle now).Matches (s₂.startCycle now) where
  units := by
    funext id
    rw [unit?_startCycle, unit?_startCycle, same.units]
  meters := same.meters

theorem Matches.paired (same : s₁.Matches s₂) {first second : String}
    (paired : s₁.Paired first second) : s₂.Paired first second := by
  obtain ⟨different, hasFirst, hasSecond, others⟩ := paired
  rw [same.units] at hasFirst hasSecond others
  exact ⟨different, hasFirst, hasSecond, others⟩

theorem Paired.startCycle {first second : String} (paired : s.Paired first second)
    (now : Instant) : (s.startCycle now).Paired first second := by
  obtain ⟨different, ⟨a, hasFirst⟩, ⟨b, hasSecond⟩, others⟩ := paired
  refine ⟨different, ⟨a.onCycle now, ?_⟩, ⟨b.onCycle now, ?_⟩, ?_⟩
  · rw [unit?_startCycle, hasFirst, Option.map_some]
  · rw [unit?_startCycle, hasSecond, Option.map_some]
  · intro id started found notFirst notSecond
    rw [unit?_startCycle] at found
    obtain ⟨b, present, rfl⟩ := Option.map_eq_some_iff.mp found
    exact others id b present notFirst notSecond

/-- The total is that of the two units, in whatever order they come. -/
theorem Matches.totalPower_eq (same : s₁.Matches s₂) {first second : String}
    (paired : s₁.Paired first second) : s₁.totalPower = s₂.totalPower := by
  obtain ⟨different, ⟨a, hasFirst⟩, ⟨b, hasSecond⟩, others⟩ := paired
  rw [totalPower_of_two different hasFirst hasSecond others]
  rw [same.units] at hasFirst hasSecond others
  rw [totalPower_of_two different hasFirst hasSecond others]

theorem Matches.readMeter (same : s₁.Matches s₂) (total : s₁.totalPower = s₂.totalPower)
    {id : String} {load : Watts} {metered₁ : Site} (reads : s₁.readMeter id load = .ok metered₁) :
    ∃ metered₂, s₂.readMeter id load = .ok metered₂ ∧ metered₁.Matches metered₂ := by
  unfold Site.readMeter at reads ⊢
  rw [same.meters, total] at reads
  split at reads
  · cases reads
    exact ⟨_, rfl, same⟩
  · split at reads
    · cases reads
      exact ⟨_, rfl, same.units, rfl⟩
    · obtain ⟨power, left, read⟩ := bind_eq_ok_iff.mp reads
      cases read
      exact ⟨_, bind_eq_ok_iff.mpr ⟨power, left, rfl⟩, same.units, rfl⟩

theorem Matches.applyPending (same : s₁.Matches s₂) {applied₁ : Site}
    (applies : s₁.applyPending now = .ok applied₁) :
    ∃ applied₂, s₂.applyPending now = .ok applied₂ ∧ applied₁.Matches applied₂ := by
  have each := unit?_applyPending applies
  rw [same.units] at each
  have integrates : ∀ id b, s₂.unit? id = some b → ∃ state, b.integrate now = .ok state := by
    intro id b found
    rcases each id with ⟨absent, -⟩ | ⟨b', after, found', changed, -⟩
    · cases absent.symm.trans found
    · cases found.symm.trans found'
      obtain ⟨state, integrated, -⟩ := Battery.applyPending_eq_ok_iff.mp changed
      exact ⟨state, integrated⟩
  obtain ⟨applied₂, applies₂⟩ := applyPending_ok integrates
  refine ⟨applied₂, applies₂, ?_, ?_⟩
  · funext id
    rcases each id with ⟨absent, none₁⟩ | ⟨b, after₁, found, changed₁, left₁⟩
    · rcases unit?_applyPending applies₂ id with ⟨-, none₂⟩ | ⟨b', -, found', -, -⟩
      · exact none₁.trans none₂.symm
      · cases absent.symm.trans found'
    · rcases unit?_applyPending applies₂ id with ⟨absent, -⟩ | ⟨b', after₂, found', changed₂, left₂⟩
      · cases absent.symm.trans found
      · cases found.symm.trans found'
        cases changed₁.symm.trans changed₂
        exact left₁.trans left₂.symm
  · rw [meters_applyPending applies, meters_applyPending applies₂, same.meters]

/-- A run does not see the order of the units. -/
theorem Matches.run (same : s₁.Matches s₂) {c : Controller} {disk : Disk} {sum₁ sum₂ : Aggregates}
    (consumption : sum₁.consumption = sum₂.consumption)
    (production : sum₁.production = sum₂.production) {ran₁ : Controller.Ran Site}
    (runs : c.run disk s₁ sum₁ now = .ok ran₁) :
    ∃ ran₂, c.run disk s₂ sum₂ now = .ok ran₂ ∧ ran₁.plant.Matches ran₂.plant ∧
      ran₁.controller = ran₂.controller ∧
      ran₁.outcome.map Outcome.withoutMeter = ran₂.outcome.map Outcome.withoutMeter := by
  have meter (id : String) : Plant.meterPower s₁ id = Plant.meterPower s₂ id := by
    change (s₁.meter id).map _ = (s₂.meter id).map _
    rw [Site.meter, Site.meter, same.meters]
  have alike : Controller.Alike c.settings.meter s₁ s₂ sum₁ sum₂ :=
    ⟨same.units, by rw [meter], consumption⟩
  obtain ⟨ran₂, runs₂, seen⟩ := ok_of_map_eq
    (Controller.run_eq_of_alike alike production (fun _ _ => rfl) fun _ _ => rfl) runs
  obtain ⟨outcome, rest⟩ := Prod.mk.inj seen
  obtain ⟨units, controller⟩ := Prod.mk.inj rest
  have meters : ran₁.plant.meters = ran₂.plant.meters := by
    rw [(Controller.components_of_run runs).1, (Controller.components_of_run runs₂).1, same.meters]
  exact ⟨ran₂, runs₂, ⟨units, meters⟩, controller, outcome⟩

end Site

namespace Engine

/-- The first part of a cycle, with the units in some orders. -/
def controlIn (o : CycleOrders) (e : Engine) (disk : Disk) (now : Instant) (netLoad : Watts) :
    Checked (Controller.Ran Site) := do
  let started := (e.site.inOrder o.start).startCycle now
  let powered := started.inOrder o.power
  let metered ← powered.readMeter e.controller.settings.meter netLoad
  let sum := { aggregates powered netLoad with
    storageCapacity := (started.inOrder o.capacity).totalCapacity }
  e.controller.run disk (metered.inOrder o.pair) sum now

/-- A cycle for what the profiles answer, with the units in some orders. -/
def serveIn (o : CycleOrders) (e : Engine) (disk : Disk) (index : Nat) (now : Instant)
    (s : Sample) : Checked Cycled := do
  let netLoad ← Reading.sub s.load s.production
  let ran ← e.controlIn o disk now netLoad
  let site ← (ran.plant.inOrder o.application).applyPending now
  let grid ← Reading.sub netLoad (site.totalPower.getD 0)
  let record : Record := {
    cycle := index
    time := now
    load := s.load
    production := s.production
    grid
    main := unitRecord site e.controller.settings.mainUnit
    support := unitRecord site e.controller.settings.supportUnit }
  pure {
    outcome := ran.outcome
    record := record.withOutcome ran.outcome
    engine := { e with
      site
      controller := ran.controller
      load := s.loadProfile
      production := s.productionProfile } }

def cycleIn (o : CycleOrders) (e : Engine) (disk : Disk) (index : Nat) (now : Instant) :
    Checked (Record × Engine) := do
  let cycled ← e.serveIn o disk index now (e.sample now)
  pure (cycled.record, cycled.engine)

/-- The next cycle, in the orders for its number. -/
def stepIn (orders : Nat → CycleOrders) (e : Engine) (disk : Disk) :
    Checked (Option (Record × Engine)) := do
  match ← e.clock.tick with
  | none => pure none
  | some ((index, now), clock) =>
    let (record, e) ← { e with clock }.cycleIn (orders index) disk index now
    pure (some (record, e))

def stepsIn (orders : Nat → CycleOrders) (e : Engine) (disk : Disk) :
    Nat → Checked (List Record × Engine)
  | 0 => .ok ([], e)
  | n + 1 => do
    match ← e.stepIn orders disk with
    | none => pure ([], e)
    | some (record, e) =>
      let (records, e) ← e.stepsIn orders disk n
      pure (record :: records, e)

theorem cycleIn_asInserted (e : Engine) (disk : Disk) (index : Nat) (now : Instant) :
    e.cycleIn (.all .asInserted) disk index now = e.cycle disk index now := rfl

theorem stepIn_asInserted (e : Engine) (disk : Disk) :
    e.stepIn (fun _ => .all .asInserted) disk = e.step disk := by
  refine bind_congr fun ticked => ?_
  cases ticked with
  | none => rfl
  | some ticked => simp only [cycleIn_asInserted]

/-- Going through the units as they were inserted is what the engine itself does. -/
theorem stepsIn_asInserted (e : Engine) (disk : Disk) (n : Nat) :
    e.stepsIn (fun _ => .all .asInserted) disk n = e.steps disk n := by
  induction n generalizing e with
  | zero => rfl
  | succ n ih =>
    rw [stepsIn, steps, stepIn_asInserted]
    refine bind_congr fun stepped => ?_
    cases stepped with
    | none => rfl
    | some stepped =>
      obtain ⟨record, after⟩ := stepped
      exact congrArg (· >>= _) (ih after)

end Engine

namespace Site

variable {s : Scenario} {k : Nat} {site : Site}

theorem Stocked.paired (stocked : site.Stocked s k) (sound : s.Sound) :
    site.Paired s.controller.mainUnit s.controller.supportUnit := by
  obtain ⟨main, foundMain⟩ := Scenario.unit?_of_mem sound.main
  obtain ⟨support, foundSupport⟩ := Scenario.unit?_of_mem sound.support
  obtain ⟨a, presentA, -⟩ := stocked.unit foundMain
  obtain ⟨b, presentB, -⟩ := stocked.unit foundSupport
  exact ⟨sound.different, ⟨a, presentA⟩, ⟨b, presentB⟩,
    fun id x found => (stocked.holds id x found).idle⟩

end Site

namespace Engine

variable {s : Scenario} {k : Nat} {e : Engine} {o : CycleOrders} {disk : Disk} {index : Nat}
  {now : Instant} {sample : Sample} {c : Cycled} {site₂ : Site} (o' : CycleOrders)

/-- What a run keeps of the engine of a scenario, in whatever orders. -/
structure Tended (s : Scenario) (k : Nat) (e : Engine) : Prop where
  settings : e.controller.settings = s.controller
  stocked : e.site.Stocked s k

theorem Tended.serveIn (tended : e.Tended s k) (time : s.clock.timeOf k = .ok now)
    (h : e.serveIn o disk index now sample = .ok c) : c.engine.Tended s (k + 1) := by
  simp only [Engine.serveIn, controlIn, bind_eq_ok_iff] at h
  obtain ⟨net, -, ran, ⟨metered, reads, runs⟩, applied, applies, grid, -, same⟩ := h
  cases same
  have started (id : String) :
      (metered.inOrder o.pair).unit? id = (e.site.unit? id).map (·.onCycle now) := by
    have start := (e.site.matches_inOrder o.start).startCycle now
    have power := ((e.site.inOrder o.start).startCycle now).matches_inOrder o.power
    rw [(metered.matches_inOrder o.pair).units, Site.unit?, Site.units_readMeter reads]
    exact (congrFun (power.trans start).units id).trans (Site.unit?_startCycle e.site now id)
  have kept := congrFun (ran.plant.matches_inOrder o.application).units
  have turns := unit?_of_applied started runs kept applies
  rw [tended.settings] at turns
  exact ⟨(Controller.settings_of_run runs).trans tended.settings,
    tended.stocked.next time turns⟩

theorem controlIn_of_matches (same : e.site.Matches site₂) {first second : String}
    (paired : e.site.Paired first second) {net : Watts} {ran₁ : Controller.Ran Site}
    (h : e.controlIn o disk now net = .ok ran₁) :
    ∃ ran₂, { e with site := site₂ }.controlIn o' disk now net = .ok ran₂ ∧
      ran₁.plant.Matches ran₂.plant ∧ ran₁.controller = ran₂.controller ∧
      ran₁.outcome.map Outcome.withoutMeter = ran₂.outcome.map Outcome.withoutMeter := by
  obtain ⟨metered₁, reads, runs⟩ := bind_eq_ok_iff.mp h
  have started := (same.inOrder o.start o'.start).startCycle now
  have powered := started.inOrder o.power o'.power
  have pairedStart := (e.site.matches_inOrder o.start).symm.paired paired
  have pairedPower := (Site.matches_inOrder _ o.power).symm.paired (pairedStart.startCycle now)
  obtain ⟨metered₂, reads₂, metered⟩ :=
    powered.readMeter (powered.totalPower_eq pairedPower) reads
  obtain ⟨ran₂, runs₂, rest⟩ := (metered.inOrder o.pair o'.pair).run rfl rfl runs
  exact ⟨ran₂, bind_eq_ok_iff.mpr ⟨metered₂, reads₂, runs₂⟩, rest⟩

/-- The record of a cycle does not tell what the meter read. -/
theorem withOutcome_withoutMeter (r : Record) (outcome : Except DispatchError Outcome) :
    r.withOutcome (outcome.map Outcome.withoutMeter) = r.withOutcome outcome := by
  cases outcome with
  | error error => rfl
  | ok outcome => cases outcome <;> rfl

theorem unitRecord_of_matches {site₁ site₂ : Site} (same : site₁.Matches site₂) (id : String) :
    unitRecord site₁ id = unitRecord site₂ id := by
  rw [unitRecord, unitRecord, same.units]

/-- A cycle that is served in some orders is served in any other, with the same record and, but for
the order of its units, the same engine after it. -/
theorem Tended.serveIn_of_matches (tended : e.Tended s k) (same : e.site.Matches site₂)
    (sound : s.Sound) (time : s.clock.timeOf k = .ok now)
    (h : e.serveIn o disk index now sample = .ok c) :
    ∃ c₂, { e with site := site₂ }.serveIn o' disk index now sample = .ok c₂ ∧
      c.record = c₂.record ∧ c.engine.site.Matches c₂.engine.site ∧
      c₂.engine = { c.engine with site := c₂.engine.site } := by
  have next := tended.serveIn time h
  simp only [Engine.serveIn, bind_eq_ok_iff] at h
  obtain ⟨net, netted, ran₁, controls, applied₁, applies, grid, balances, told⟩ := h
  cases told
  obtain ⟨ran₂, controls₂, plant, controller, outcome⟩ :=
    controlIn_of_matches o' same (tended.stocked.paired sound) controls
  obtain ⟨applied₂, applies₂, applied⟩ :=
    (plant.inOrder o.application o'.application).applyPending applies
  rw [applied.totalPower_eq (next.stocked.paired sound)] at balances
  have serves₂ : { e with site := site₂ }.serveIn o' disk index now sample = .ok _ :=
    bind_eq_ok_iff.mpr ⟨net, netted, bind_eq_ok_iff.mpr ⟨ran₂, controls₂,
      bind_eq_ok_iff.mpr ⟨applied₂, applies₂, bind_eq_ok_iff.mpr ⟨grid, balances, rfl⟩⟩⟩⟩
  refine ⟨_, serves₂, ?_, applied, ?_⟩
  · dsimp only
    rw [← withOutcome_withoutMeter _ ran₁.outcome, outcome, withOutcome_withoutMeter,
      unitRecord_of_matches applied, unitRecord_of_matches applied]
  · rw [controller]

theorem clock_of_serveIn (h : e.serveIn o disk index now sample = .ok c) :
    c.engine.clock = e.clock := by
  simp only [serveIn, bind_eq_ok_iff] at h
  obtain ⟨_, -, _, -, _, -, _, -, told⟩ := h
  cases told
  rfl

theorem sample_withSite (e : Engine) (site : Site) (now : Instant) :
    { e with site }.sample now = e.sample now := by
  simp only [Engine.sample]

theorem Tended.cycleIn_of_matches {record : Record} {after : Engine} (tended : e.Tended s k)
    (same : e.site.Matches site₂) (sound : s.Sound) (time : s.clock.timeOf k = .ok now)
    (h : e.cycleIn o disk index now = .ok (record, after)) :
    (∃ site, { e with site := site₂ }.cycleIn o' disk index now = .ok (record, { after with site }) ∧
      after.site.Matches site) ∧ after.Tended s (k + 1) ∧ after.clock = e.clock := by
  obtain ⟨c, served, told⟩ := bind_eq_ok_iff.mp h
  cases told
  obtain ⟨c₂, served₂, record, site, engine⟩ :=
    tended.serveIn_of_matches o' same sound time served
  refine ⟨⟨c₂.engine.site, ?_, site⟩, tended.serveIn time served, clock_of_serveIn served⟩
  rw [record, ← engine, cycleIn, sample_withSite]
  exact bind_eq_ok_iff.mpr ⟨c₂, served₂, rfl⟩

/-- Runs of engines that only the order of their units tells apart leave such engines. -/
theorem stepsIn_of_matches {orders orders' : Nat → CycleOrders} {n : Nat} {records : List Record}
    {e₁ : Engine} (same : e.site.Matches site₂) (tended : e.Tended s k)
    (clock : e.clock = { s.clock with current := k }) (sound : s.Sound)
    (h : e.stepsIn orders disk n = .ok (records, e₁)) :
    ∃ site, { e with site := site₂ }.stepsIn orders' disk n = .ok (records, { e₁ with site }) ∧
      e₁.site.Matches site := by
  induction n generalizing e k site₂ records with
  | zero =>
    cases h
    exact ⟨site₂, rfl, same⟩
  | succ n ih =>
    obtain ⟨stepped, step, h⟩ := bind_eq_ok_iff.mp h
    obtain ⟨ticked, tick, step⟩ := bind_eq_ok_iff.mp step
    cases ticked with
    | none =>
      cases step
      cases h
      refine ⟨site₂, bind_eq_ok_iff.mpr ⟨none, ?_, rfl⟩, same⟩
      exact bind_eq_ok_iff.mpr ⟨none, tick, rfl⟩
    | some ticked =>
      obtain ⟨⟨index, now⟩, clock'⟩ := ticked
      obtain ⟨⟨record, after⟩, cycled, told⟩ := bind_eq_ok_iff.mp step
      cases told
      obtain ⟨⟨others, last⟩, rest, told⟩ := bind_eq_ok_iff.mp h
      cases told
      obtain ⟨-, -, time, next⟩ := Clock.tick_eq_ok_some_iff.mp tick
      rw [clock] at time next
      have ready : { e with clock := clock' }.Tended s k := ⟨tended.settings, tended.stocked⟩
      obtain ⟨⟨between, cycled₂, matched⟩, kept, clockKept⟩ :=
        ready.cycleIn_of_matches (orders' index) same sound time cycled
      obtain ⟨left, rest₂, matched'⟩ := ih matched kept (clockKept.trans next) rest
      have step₂ : { e with site := site₂ }.stepIn orders' disk =
          .ok (some (record, { after with site := between })) :=
        bind_eq_ok_iff.mpr ⟨_, tick, bind_eq_ok_iff.mpr ⟨_, cycled₂, rfl⟩⟩
      exact ⟨left, bind_eq_ok_iff.mpr ⟨_, step₂, bind_eq_ok_iff.mpr ⟨_, rest₂, rfl⟩⟩, matched'⟩

/-- A run of the engine of a scenario in some orders gives the same records in any other orders, and
leaves the same meters, units, forecasts and profiles. The engine's own run is one of them. -/
theorem run_in_any_order (build : s.build = .ok (.ok e)) (disk : Disk) (n : Nat) :
    e.stepsIn (fun _ => .all .asInserted) disk n = e.steps disk n ∧
      ∀ orders orders' records e₁, e.stepsIn orders disk n = .ok (records, e₁) →
        ∃ site, e.stepsIn orders' disk n = .ok (records, { e₁ with site }) ∧
          (∀ id, site.unit? id = e₁.site.unit? id) ∧ site.meters = e₁.site.meters := by
  refine ⟨stepsIn_asInserted e disk n, ?_⟩
  intro orders orders' records e₁ h
  have sound := Scenario.sound (Scenario.build_eq_ok_iff.mp build).1
  have running := running_of_build build
  have tended : e.Tended s 0 := ⟨running.equipped.settings, running.equipped.stocked⟩
  obtain ⟨site, runs, same⟩ :=
    stepsIn_of_matches ⟨rfl, rfl⟩ tended running.clock sound h
  exact ⟨site, runs, fun id => congrFun same.units.symm id, same.meters.symm⟩

/-- The night with a third battery, which the controller does not use. -/
def crowdedScenario : Scenario :=
  { nightScenario with units := nightScenario.units ++ [{ UnitSpec.default with id := "ess2" }] }

theorem crowded_headroom : crowdedScenario.Headroom .redox .lithium 0 80000 :=
  { night_headroom with }

theorem crowded_netLoadWithin : crowdedScenario.NetLoadWithin 0 80000 := night_netLoadWithin

/-- In the second cycle the three batteries come in reverse. -/
theorem run_in_any_order_crowded : ∃ e records e₁ site,
    crowdedScenario.build = .ok (.ok e) ∧ e.run .empty = .ok (records, e₁) ∧ records.length = 3 ∧
      e.stepsIn (fun index => .all (if index = 1 then .reversed else .asInserted)) .empty
        e.clock.remaining = .ok (records, { e₁ with site }) ∧
      ∀ id, site.unit? id = e₁.site.unit? id := by
  obtain ⟨e, build, -⟩ := Scenario.build_ok (s := crowdedScenario) (by decide +kernel)
  obtain ⟨records, e₁, run, length⟩ :=
    run_ok build (by rfl) (by rfl) crowded_headroom crowded_netLoadWithin .empty
  obtain ⟨own, others⟩ := run_in_any_order build .empty e.clock.remaining
  obtain ⟨site, runs, units, -⟩ := others _ _ records e₁ (own.trans run)
  exact ⟨e, records, e₁, site, build, run, length, runs, units⟩

end Engine

end HybridStorage
