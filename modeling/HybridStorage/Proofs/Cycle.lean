import HybridStorage.Proofs.Battery
import HybridStorage.Proofs.Run
import HybridStorage.Proofs.Site
import HybridStorage.Scenario.Violation
import HybridStorage.Site.Engine

/-!
# Units in a cycle of the engine

A cycle of the engine is a cycle of each of its batteries. Only a dispatched one asks for power, and
only of the main and of the support unit.
-/

namespace HybridStorage

theorem Reading.eq_sub_of_sub {a b c : Int32} (h : sub a b = .ok c) : c = a - b := by
  have difference := sub_eq_ok_iff.mp h
  rw [← Int32.ofInt_toInt c, difference, Int32.ofInt_sub, Int32.ofInt_toInt, Int32.ofInt_toInt]

def Settings.unit (c : Settings) : UnitRole → String
  | .main => c.mainUnit
  | .support => c.supportUnit

def Delivery.setPoint (d : Delivery) : UnitRole → Watts
  | .main => d.mainSetPoint
  | .support => d.supportSetPoint

def Record.unit (r : Record) : UnitRole → UnitRecord
  | .main => r.main
  | .support => r.support

/-- What a unit was asked for: the main unit for its share, the support unit for all that the main
unit left. -/
def Dispatch.request (d : Dispatch) : UnitRole → Watts
  | .main => d.delivery.mainRequest
  | .support => d.plan.required - d.delivery.mainSetPoint

/-- What a run asked of the unit under an identifier. -/
def Settings.asked (c : Settings) (outcome : Except DispatchError Outcome) (id : String) :
    Option Watts :=
  match outcome with
  | .ok (.dispatched d) =>
    if id = c.supportUnit then some (d.request .support)
    else if id = c.mainUnit then some (d.request .main) else none
  | _ => none

theorem Settings.asked_of_role {c : Settings} (different : c.mainUnit ≠ c.supportUnit)
    (d : Dispatch) (role : UnitRole) :
    c.asked (.ok (.dispatched d)) (c.unit role) = some (d.request role) := by
  cases role with
  | main => simp [asked, unit, different]
  | support => simp [asked, unit]

theorem Settings.asked_of_other {c : Settings} {id : String} (notMain : id ≠ c.mainUnit)
    (notSupport : id ≠ c.supportUnit) (outcome : Except DispatchError Outcome) :
    c.asked outcome id = none := by
  unfold asked
  split
  · rw [if_neg notSupport, if_neg notMain]
  · rfl

def Cycled.dispatch? (c : Cycled) : Option Dispatch :=
  match c.outcome with
  | .ok (.dispatched d) => some d
  | _ => none

theorem Cycled.dispatch?_eq_some_iff (c : Cycled) {d : Dispatch} :
    c.dispatch? = some d ↔ c.outcome = .ok (.dispatched d) := by
  unfold dispatch?
  split
  · next dispatch ended => simp [ended]
  · next other =>
    constructor
    · intro h
      cases h
    · exact fun h => absurd h (other d)

/-- The set-point that a run wrote to a unit. -/
def written (outcome : Except DispatchError Outcome) (role : UnitRole) : Option Watts :=
  match outcome with
  | .ok (.dispatched d) => some (d.delivery.setPoint role)
  | _ => none

/-- How the record of a cycle tells its end. -/
def CycleStatus.ofOutcome : Except DispatchError Outcome → CycleStatus
  | .error _ => .aborted
  | .ok .offGrid => .offGrid
  | .ok (.dispatched _) => .dispatched

theorem Record.status_withOutcome {r : Record} (outcome : Except DispatchError Outcome)
    (unset : r.status = .aborted) :
    (r.withOutcome outcome).status = CycleStatus.ofOutcome outcome := by
  unfold withOutcome
  split
  · exact unset
  · rfl
  · rfl

theorem Record.time_withOutcome (r : Record) (outcome : Except DispatchError Outcome) :
    (r.withOutcome outcome).time = r.time := by
  unfold withOutcome
  split <;> rfl

theorem Record.cycle_withOutcome (r : Record) (outcome : Except DispatchError Outcome) :
    (r.withOutcome outcome).cycle = r.cycle := by
  unfold withOutcome
  split <;> rfl

theorem Record.unit_withOutcome {r : Record} {role : UnitRole}
    (outcome : Except DispatchError Outcome) (none : (r.unit role).setPoint = none) :
    (r.withOutcome outcome).unit role = { r.unit role with setPoint := written outcome role } := by
  have kept : r.unit role = { r.unit role with setPoint := Option.none } := by
    rw [← none]
  unfold withOutcome
  split
  · exact kept
  · exact kept
  · cases role <;> rfl

theorem Battery.answer_of_grant {b granted : Battery} {now : Instant} {request setPoint : Watts}
    (h : b.grant now request = (setPoint, granted)) :
    b.answer now (some request) = (granted.writeActive setPoint).writeReactive 0 := by
  simp only [answer, h]

namespace Controller

theorem settings_plan {α : Type} [StorageUnit α] (c : Controller) (disk : Disk) (main : α)
    (sum : Aggregates) (now : Instant) (s : Snapshot) :
    (c.plan disk main sum now s).2.settings = c.settings := by
  unfold plan
  split <;> rfl

theorem settings_of_run {σ α : Type} [StorageUnit α] [Plant σ α] {c : Controller} {disk : Disk}
    {plant : σ} {sum : Aggregates} {now : Instant} {ran : Ran σ}
    (h : c.run disk plant sum now = .ok ran) : ran.controller.settings = c.settings := by
  cases run_eq_ok_iff.mp h with
  | unresolved => rfl
  | offGrid => rfl
  | unread => rfl
  | emitted => exact settings_plan _ _ _ _ _ _

theorem units_of_resolve {c : Controller} {s : Site} {gridPower : Option Watts}
    {main support : Battery} (h : c.resolve s = .ok (gridPower, main, support)) :
    c.settings.mainUnit ≠ c.settings.supportUnit ∧ s.unit? c.settings.mainUnit = some main ∧
      s.unit? c.settings.supportUnit = some support := by
  obtain ⟨different, foundMain, -, foundSupport, -⟩ :=
    Site.unitPair_eq_ok_iff.mp (pair_of_resolve h)
  exact ⟨different, foundMain, foundSupport⟩

/-- A run over a site makes every battery answer what it asks of it. -/
theorem unit?_of_run {c : Controller} {disk : Disk} {s : Site} {sum : Aggregates} {now : Instant}
    {ran : Ran Site} (h : c.run disk s sum now = .ok ran) (id : String) :
    ran.plant.unit? id =
      (s.unit? id).map (·.answer now (c.settings.asked ran.outcome id)) := by
  have unchanged : s.unit? id = (s.unit? id).map (·.answer now none) := by
    cases s.unit? id <;> rfl
  cases run_eq_ok_iff.mp h with
  | unresolved => exact unchanged
  | offGrid => exact unchanged
  | unread => exact unchanged
  | @emitted main support _ d granted reads delivers =>
    obtain ⟨different, foundMain, foundSupport⟩ := units_of_resolve reads.resolved
    obtain ⟨-, mainGrant, rest, left, supportGrant⟩ := delivers
    have mainAnswer := Battery.answer_of_grant mainGrant
    have supportAnswer := Battery.answer_of_grant supportGrant
    rw [Reading.eq_sub_of_sub left] at supportAnswer
    rw [Site.unit?_putPair]
    by_cases isSupport : id = c.settings.supportUnit
    · rw [isSupport, foundSupport]
      change some (if _ then _ else _) = some (support.answer now (if _ then _ else _))
      rw [if_pos rfl, if_pos rfl]
      exact congrArg some supportAnswer.symm
    · by_cases isMain : id = c.settings.mainUnit
      · rw [isMain, foundMain]
        change some (if _ then _ else _) = some (main.answer now (if _ then _ else _))
        rw [if_neg different, if_pos rfl, if_neg different, if_pos rfl]
        exact congrArg some mainAnswer.symm
      · cases s.unit? id with
        | none => rfl
        | some b =>
          change some (if _ then _ else _) = some (b.answer now (if _ then _ else _))
          rw [if_neg isSupport, if_neg isMain, if_neg isSupport, if_neg isMain]
          rfl

theorem units_differ_of_run {c : Controller} {disk : Disk} {s : Site} {sum : Aggregates}
    {now : Instant} {ran : Ran Site} {d : Dispatch} (h : c.run disk s sum now = .ok ran)
    (dispatched : ran.outcome = .ok (.dispatched d)) :
    c.settings.mainUnit ≠ c.settings.supportUnit := by
  obtain ⟨_, _, _, run⟩ := dispatches_of_run h dispatched
  exact (units_of_resolve run.reads.resolved).1

/-- A dispatched run found both units, asked them, and wrote what they granted. -/
theorem granted_of_run {c : Controller} {disk : Disk} {s : Site} {sum : Aggregates} {now : Instant}
    {ran : Ran Site} {d : Dispatch} (h : c.run disk s sum now = .ok ran)
    (dispatched : ran.outcome = .ok (.dispatched d)) (role : UnitRole) :
    ∃ b, s.unit? (c.settings.unit role) = some b ∧
      (b.grant now (d.request role)).1 = d.delivery.setPoint role := by
  obtain ⟨main, support, granted, run⟩ := dispatches_of_run h dispatched
  obtain ⟨-, foundMain, foundSupport⟩ := units_of_resolve run.reads.resolved
  obtain ⟨-, mainGrant, rest, left, supportGrant⟩ := run.delivers
  cases role with
  | main => exact ⟨main, foundMain, congrArg Prod.fst mainGrant⟩
  | support =>
    refine ⟨support, foundSupport, ?_⟩
    rw [Dispatch.request, ← Reading.eq_sub_of_sub left]
    exact congrArg Prod.fst supportGrant

end Controller

namespace Engine

/-- The steps of a cycle that gives a result. -/
structure Serves (e : Engine) (disk : Disk) (index : Nat) (now : Instant) (s : Sample)
    (cycled : Cycled) (netLoad : Watts) (metered : Site) (ran : Controller.Ran Site)
    (grid : Watts) : Prop where
  net : Reading.sub s.load s.production = .ok netLoad
  reads : (e.site.startCycle now).readMeter e.controller.settings.meter netLoad = .ok metered
  runs : e.controller.run disk metered (aggregates (e.site.startCycle now) netLoad) now = .ok ran
  applies : ran.plant.applyPending now = .ok cycled.engine.site
  balances : Reading.sub netLoad (cycled.engine.site.totalPower.getD 0) = .ok grid
  outcome_eq : cycled.outcome = ran.outcome
  record_eq : cycled.record = ({
    cycle := index
    time := now
    load := s.load
    production := s.production
    grid
    main := unitRecord cycled.engine.site e.controller.settings.mainUnit
    support := unitRecord cycled.engine.site e.controller.settings.supportUnit } :
      Record).withOutcome ran.outcome
  engine_eq : cycled.engine = { e with
    site := cycled.engine.site
    controller := ran.controller
    load := s.loadProfile
    production := s.productionProfile }

theorem setPoint_unitRecord (site : Site) (id : String) : (unitRecord site id).setPoint = none := by
  unfold unitRecord
  split <;> rfl

theorem unitRecord_of_unit? {site : Site} {id : String} {b : Battery}
    (found : site.unit? id = some b) : unitRecord site id =
      { applied := b.active, charge := b.charge, ready := b.readiness.isReady } := by
  simp only [unitRecord, found]

variable {e : Engine} {disk : Disk} {index : Nat} {now : Instant} {s : Sample} {cycled : Cycled}

theorem serves_of_serve (h : e.serve disk index now s = .ok cycled) :
    ∃ netLoad metered ran grid, e.Serves disk index now s cycled netLoad metered ran grid := by
  simp only [serve, control, bind_eq_ok_iff] at h
  obtain ⟨netLoad, net, ran, ⟨metered, read, run⟩, site, applied, grid, left, same⟩ := h
  cases same
  exact ⟨netLoad, metered, ran, grid, net, read, run, applied, left, rfl, rfl, rfl⟩

theorem settings_of_serve (h : e.serve disk index now s = .ok cycled) :
    cycled.engine.controller.settings = e.controller.settings := by
  obtain ⟨_, _, ran, _, serves⟩ := serves_of_serve h
  rw [serves.engine_eq]
  exact Controller.settings_of_run serves.runs

theorem time_of_serve (h : e.serve disk index now s = .ok cycled) : cycled.record.time = now := by
  obtain ⟨_, _, _, _, serves⟩ := serves_of_serve h
  rw [serves.record_eq, Record.time_withOutcome]

theorem status_of_serve (h : e.serve disk index now s = .ok cycled) :
    cycled.record.status = CycleStatus.ofOutcome cycled.outcome := by
  obtain ⟨_, _, _, _, serves⟩ := serves_of_serve h
  rw [serves.record_eq, serves.outcome_eq]
  exact Record.status_withOutcome _ rfl

/-- The record of a unit tells the state that the cycle left it in, and what was written to it. -/
theorem unit_of_serve (h : e.serve disk index now s = .ok cycled) (role : UnitRole) :
    cycled.record.unit role =
      { unitRecord cycled.engine.site (e.controller.settings.unit role) with
        setPoint := written cycled.outcome role } := by
  obtain ⟨_, _, _, _, serves⟩ := serves_of_serve h
  rw [serves.record_eq, serves.outcome_eq]
  cases role with
  | main => exact Record.unit_withOutcome _ (setPoint_unitRecord _ _)
  | support => exact Record.unit_withOutcome _ (setPoint_unitRecord _ _)

theorem unit?_of_readMeter {site metered : Site} {meter : String} {netLoad : Watts}
    (reads : (site.startCycle now).readMeter meter netLoad = .ok metered) (id : String) :
    metered.unit? id = (site.unit? id).map (·.onCycle now) := by
  rw [← Site.unit?_startCycle, Site.unit?, Site.units_readMeter reads]
  rfl

theorem Serves.unit?_metered {netLoad : Watts} {metered : Site} {ran : Controller.Ran Site}
    {grid : Watts} (serves : e.Serves disk index now s cycled netLoad metered ran grid)
    (id : String) : metered.unit? id = (e.site.unit? id).map (·.onCycle now) :=
  unit?_of_readMeter serves.reads id

/-- From the start of the cycle to the application a battery goes through its own cycle, with what the
controller asks of it. -/
theorem unit?_of_applied {site metered left applied : Site} {controller : Controller}
    {sum : Aggregates} {ran : Controller.Ran Site}
    (started : ∀ id, metered.unit? id = (site.unit? id).map (·.onCycle now))
    (runs : controller.run disk metered sum now = .ok ran)
    (kept : ∀ id, left.unit? id = ran.plant.unit? id)
    (applies : left.applyPending now = .ok applied) (id : String) :
    (site.unit? id = none ∧ applied.unit? id = none) ∨
      ∃ b b', site.unit? id = some b ∧
        b.serve now (controller.settings.asked ran.outcome id) = .ok b' ∧
        applied.unit? id = some b' := by
  have answered := Controller.unit?_of_run runs id
  rw [started, Option.map_map, ← kept] at answered
  rcases Site.unit?_applyPending applies id with ⟨absent, still⟩ | ⟨b, b', found, h', still⟩
  · rw [absent] at answered
    exact .inl ⟨Option.map_eq_none_iff.mp answered.symm, still⟩
  · rw [found] at answered
    obtain ⟨before, present, same⟩ := Option.map_eq_some_iff.mp answered.symm
    rw [← same] at h'
    exact .inr ⟨before, b', present, h', still⟩

/-- A battery is there after a cycle exactly if it was there before, and then it went through its
own cycle with what was asked of it. -/
theorem unit?_of_serve (h : e.serve disk index now s = .ok cycled) (id : String) :
    (e.site.unit? id = none ∧ cycled.engine.site.unit? id = none) ∨
      ∃ b b', e.site.unit? id = some b ∧
        b.serve now (e.controller.settings.asked cycled.outcome id) = .ok b' ∧
        cycled.engine.site.unit? id = some b' := by
  obtain ⟨_, _, _, _, serves⟩ := serves_of_serve h
  rw [serves.outcome_eq]
  exact unit?_of_applied serves.unit?_metered serves.runs (fun _ => rfl) serves.applies id

/-- A dispatched cycle found both units, asked them, and wrote what they granted. -/
theorem granted_of_serve {d : Dispatch} (h : e.serve disk index now s = .ok cycled)
    (dispatched : cycled.outcome = .ok (.dispatched d)) (role : UnitRole) :
    ∃ b, e.site.unit? (e.controller.settings.unit role) = some b ∧
      ((b.onCycle now).grant now (d.request role)).1 = d.delivery.setPoint role := by
  obtain ⟨_, metered, ran, _, serves⟩ := serves_of_serve h
  rw [serves.outcome_eq] at dispatched
  obtain ⟨started, found, granted⟩ := Controller.granted_of_run serves.runs dispatched role
  rw [serves.unit?_metered] at found
  obtain ⟨b, present, rfl⟩ := Option.map_eq_some_iff.mp found
  exact ⟨b, present, granted⟩

end Engine

end HybridStorage
