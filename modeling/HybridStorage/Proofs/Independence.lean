import HybridStorage.Proofs.Frame
import HybridStorage.Proofs.GridTarget

/-!
# What a dispatch depends on

Two runs over the same units and for the same consumption compute the same, however the reading of
the meter and the readings of storage differ. A discharge cycle depends on neither the production
nor the forecasts, and a cycle that must charge does not depend on the power forecast. The
comparison is of whole results: both runs fault, or both give what only the recorded meter reading
tells apart.
-/

namespace HybridStorage

open Forecast (Store)

/-- A plant whose units can be looked at apart from its meters. What they are decides what is looked
up, and what is left after two of them were put back. -/
class UnitView (σ : Type) (α : outParam Type) [Plant σ α] where
  View : Type
  units : σ → View
  unitPair_eq : ∀ {p₁ p₂ : σ}, units p₁ = units p₂ → ∀ first second : String,
    Plant.unitPair p₁ first second = Plant.unitPair p₂ first second
  putPair_eq : ∀ {p₁ p₂ : σ}, units p₁ = units p₂ → ∀ (first second : String) (pair : α × α),
    units (Plant.putPair p₁ first second pair) = units (Plant.putPair p₂ first second pair)

/-- The units of a site are what can be found under each identifier. -/
instance : UnitView Site Battery where
  View := String → Option Battery
  units := Site.unit?
  unitPair_eq {p₁ p₂} same first second := by
    change p₁.unitPair first second = p₂.unitPair first second
    simp only [Site.unitPair, Site.unit, same]
  putPair_eq {p₁ p₂} same first second pair := by
    funext id
    rw [Site.unit?_putPair, Site.unit?_putPair, same]

instance : UnitView ScriptedPlant ScriptedUnit where
  View := ScriptedUnit × ScriptedUnit
  units p := (p.main, p.support)
  unitPair_eq {p₁ p₂} same first second := by
    obtain ⟨main, support⟩ := Prod.mk.inj same
    change (if first = p₁.main.id ∧ second = p₁.support.id then Except.ok (p₁.main, p₁.support)
      else _) = _
    rw [main, support]
    rfl
  putPair_eq _ _ _ _ := rfl

/-- The outcome without the recorded meter reading. -/
def Outcome.withoutMeter : Outcome → Outcome
  | .offGrid => .offGrid
  | .dispatched d => .dispatched { d with snapshot := { d.snapshot with gridPower := none } }

namespace Controller

def withStores (c : Controller) (energyStore powerStore : Option Store) : Controller :=
  { c with energyStore, powerStore }

/-- What is compared of two runs: the outcome, but for the recorded meter reading, all units, and
what `keep` takes of the controller. -/
def Ran.seen {σ α κ : Type} [Plant σ α] [UnitView σ α] (keep : Controller → κ) (ran : Ran σ) :
    Except DispatchError Outcome × UnitView.View σ × κ :=
  (ran.outcome.map Outcome.withoutMeter, UnitView.units ran.plant, keep ran.controller)

/-- The file of the store, if there is one, is the same on both disks. -/
def SameFile (store : Option Store) (disk₁ disk₂ : Disk) : Prop :=
  ∀ s, store = some s → disk₁ s.path = disk₂ s.path

theorem predict_eq {store : Option Store} {disk₁ disk₂ : Disk} (same : SameFile store disk₁ disk₂)
    (now : Instant) : predict store disk₁ now = predict store disk₂ now := by
  cases store with
  | none => rfl
  | some s => simp only [predict, Store.lookup, Store.table, same s rfl]

section Plan

variable {α : Type} [StorageUnit α]

theorem takeSnapshot_reading (c : Controller) (energy₁ energy₂ power₁ power₂ : Option Store)
    (main support : α) (mode : GridMode) (reading₁ reading₂ : Option Watts)
    {sum₁ sum₂ : Aggregates} (same : sum₁.consumption = sum₂.consumption) :
    (c.withStores energy₂ power₂).takeSnapshot main support mode reading₂ sum₂ =
      ((c.withStores energy₁ power₁).takeSnapshot main support mode reading₁ sum₁).map
        fun s => { s with gridPower := reading₂ } := by
  simp only [takeSnapshot, map_bind, withStores]
  rw [same]
  cases sum₂.consumption <;> rfl

/-- A discharge cycle decides by the readings of the units and the consumption alone. -/
theorem plan_of_consumption (c : Controller) {s : Snapshot} (consumes : 0 < s.consumption)
    (disk : Disk) (main : α) (sum : Aggregates) (now : Instant) :
    c.plan disk main sum now s = (c.planDischarge main s, c) := if_pos consumes

theorem plan_eq {c : Controller} {disk₁ disk₂ : Disk} {sum₁ sum₂ : Aggregates}
    (production : sum₁.production = sum₂.production) (energy : SameFile c.energyStore disk₁ disk₂)
    (power : SameFile c.powerStore disk₁ disk₂) (main : α) (now : Instant) (s : Snapshot) :
    c.plan disk₁ main sum₁ now s = c.plan disk₂ main sum₂ now s := by
  simp only [plan, planCharge, production, predict_eq energy, predict_eq power]

/-- A cycle that must charge plans without the power forecast. -/
theorem plan_eq_of_mustCharge {c : Controller} {disk₁ disk₂ : Disk} {sum₁ sum₂ : Aggregates}
    {now : Instant} {s : Snapshot} (production : sum₁.production = sum₂.production)
    (energy : SameFile c.energyStore disk₁ disk₂)
    (must : mustCharge s (c.reserve disk₁ now) = true) (power₁ power₂ : Option Store) (main : α) :
    ((c.withStores c.energyStore power₁).plan disk₁ main sum₁ now s).map id Controller.energyStore =
      ((c.withStores c.energyStore power₂).plan disk₂ main sum₂ now s).map id
        Controller.energyStore := by
  unfold reserve at must
  rw [predict_eq energy] at must
  simp only [plan, withStores]
  split
  · rfl
  · simp only [planCharge, predict_eq energy, must, production, if_true]
    rfl

theorem powerStore_plan {c : Controller} {disk : Disk} {now : Instant} {s : Snapshot}
    (must : mustCharge s (c.reserve disk now) = true) (power : Option Store) (main : α)
    (sum : Aggregates) :
    ((c.withStores c.energyStore power).plan disk main sum now s).2.powerStore = power := by
  unfold reserve at must
  simp only [plan, withStores]
  split
  · rfl
  · simp only [planCharge, must, if_true]

end Plan

section Run

variable {σ α : Type} [StorageUnit α] [Plant σ α] [UnitView σ α]

/-- Two calls see the same units and the same consumption, and both find the meter or neither. -/
structure Alike (id : String) (p₁ p₂ : σ) (sum₁ sum₂ : Aggregates) : Prop where
  units : UnitView.units p₁ = UnitView.units p₂
  meter : (Plant.meterPower p₁ id).map (fun _ => ()) = (Plant.meterPower p₂ id).map fun _ => ()
  consumption : sum₁.consumption = sum₂.consumption

variable {c : Controller} {disk₁ disk₂ : Disk} {p₁ p₂ : σ} {sum₁ sum₂ : Aggregates} {now : Instant}

omit [StorageUnit α] in
theorem Alike.resolve (alike : Alike c.settings.meter p₁ p₂ sum₁ sum₂) :
    (∃ error, c.resolve p₁ = .error error ∧ c.resolve p₂ = .error error) ∨
      ∃ power₁ power₂ main support, c.resolve p₁ = .ok (power₁, main, support) ∧
        c.resolve p₂ = .ok (power₂, main, support) := by
  have meter := alike.meter
  simp only [Controller.resolve, ← UnitView.unitPair_eq alike.units]
  cases first : Plant.meterPower p₁ c.settings.meter with
  | error error =>
    cases second : Plant.meterPower p₂ c.settings.meter with
    | error error' =>
      rw [first, second] at meter
      cases meter
      exact .inl ⟨error, rfl, rfl⟩
    | ok power =>
      rw [first, second] at meter
      cases meter
  | ok power₁ =>
    cases second : Plant.meterPower p₂ c.settings.meter with
    | error error =>
      rw [first, second] at meter
      cases meter
    | ok power₂ =>
      cases Plant.unitPair p₁ c.settings.mainUnit c.settings.supportUnit with
      | error error => exact .inl ⟨error, rfl, rfl⟩
      | ok pair => exact .inr ⟨power₁, power₂, pair.1, pair.2, rfl, rfl⟩

omit [StorageUnit α] in
/-- Two runs that put the same units back, and dispatched the same but for the meter reading, cannot
be told apart. -/
theorem seen_emitted {κ : Type} {keep : Controller → κ} {c₁ c₂ : Controller}
    (units : UnitView.units p₁ = UnitView.units p₂) (kept : keep c₁ = keep c₂)
    (first second : String) (pair : α × α) (written : Except DispatchError Unit) (d : Dispatch)
    (reading : Option Watts) :
    Ran.seen keep
        ⟨c₁, Plant.putPair p₁ first second pair, written.map fun () => .dispatched d⟩ =
      Ran.seen keep ⟨c₂, Plant.putPair p₂ first second pair, written.map fun () =>
        .dispatched { d with snapshot := { d.snapshot with gridPower := reading } }⟩ := by
  have left := UnitView.putPair_eq units first second pair
  have ended : (written.map fun () => Outcome.dispatched d).map Outcome.withoutMeter =
      (written.map fun () => Outcome.dispatched
        { d with snapshot := { d.snapshot with gridPower := reading } }).map
          Outcome.withoutMeter := by
    cases written <;> rfl
  exact Prod.ext ended (Prod.ext left kept)

/-- A run from its plan on. -/
def carryOut (settings : Settings) (plant : σ) (now : Instant) (s : Snapshot)
    (planned : Plan × Controller) (main support : α) : Checked (Ran σ) := do
  let (delivery, main, support) ← deliver planned.1 now main support
  let (pair, written) := emit delivery main support
  pure ⟨planned.2, Plant.putPair plant settings.mainUnit settings.supportUnit pair,
    written.map fun () => .dispatched ⟨now, s, planned.1, delivery⟩⟩

theorem carryOut_eq {κ : Type} {keep : Controller → κ} (units : UnitView.units p₁ = UnitView.units p₂)
    {planned₁ planned₂ : Plan × Controller} (same : planned₁.map id keep = planned₂.map id keep)
    (settings : Settings) (now : Instant) (s : Snapshot) (reading : Option Watts)
    (main support : α) :
    (carryOut settings p₁ now s planned₁ main support).map (Ran.seen keep) =
      (carryOut settings p₂ now { s with gridPower := reading } planned₂ main support).map
        (Ran.seen keep) := by
  obtain ⟨plan, c₁⟩ := planned₁
  obtain ⟨_, c₂⟩ := planned₂
  obtain ⟨rfl, kept⟩ := Prod.mk.inj same
  simp only [carryOut, map_bind, id_eq]
  refine bind_congr fun (d, granted) => ?_
  exact congrArg Except.ok (seen_emitted units kept settings.mainUnit settings.supportUnit
    (emit d granted.1 granted.2).1 (emit d granted.1 granted.2).2 ⟨now, s, plan, d⟩ reading)

/-- Runs that are alike and make the same plan compute the same. `keep` is what is compared of the
controllers. -/
theorem run_eq_of_plan {κ : Type} (keep : Controller → κ)
    {energy₁ energy₂ power₁ power₂ : Option Store}
    (alike : Alike c.settings.meter p₁ p₂ sum₁ sum₂)
    (kept : keep (c.withStores energy₁ power₁) = keep (c.withStores energy₂ power₂))
    (planned : ∀ main support s, Reads c p₁ sum₁ main support s →
      ((c.withStores energy₁ power₁).plan disk₁ main sum₁ now s).map id keep =
        ((c.withStores energy₂ power₂).plan disk₂ main sum₂ now s).map id keep) :
    ((c.withStores energy₁ power₁).run disk₁ p₁ sum₁ now).map (Ran.seen keep) =
      ((c.withStores energy₂ power₂).run disk₂ p₂ sum₂ now).map (Ran.seen keep) := by
  rcases alike.resolve with ⟨error, none₁, none₂⟩ |
    ⟨reading₁, reading₂, main, support, found₁, found₂⟩
  · have resolved₁ : (c.withStores energy₁ power₁).resolve p₁ = _ := none₁
    have resolved₂ : (c.withStores energy₂ power₂).resolve p₂ = _ := none₂
    simp only [run, resolved₁, resolved₂, Except.map, Ran.seen, alike.units, kept]
  · have resolved₁ : (c.withStores energy₁ power₁).resolve p₁ = _ := found₁
    have resolved₂ : (c.withStores energy₂ power₂).resolve p₂ = _ := found₂
    simp only [run, resolved₁, resolved₂, dispatch]
    split
    · simp only [pure, Except.pure, Except.map, Ran.seen, alike.units, kept]
    · next onGrid =>
      rw [c.takeSnapshot_reading energy₁ energy₂ power₁ power₂ main support _ reading₁ reading₂
        alike.consumption]
      cases taken : (c.withStores energy₁ power₁).takeSnapshot main support
          (GridMode.combine [StorageUnit.gridMode main, StorageUnit.gridMode support]) reading₁
          sum₁ with
      | error stop =>
        cases stop with
        | fault fault => rfl
        | abort error =>
          simp only [pure, Except.pure, Except.map, Ran.seen, alike.units, kept]
      | ok s =>
        obtain ⟨sameMode, samePower, -⟩ := takeSnapshot_given taken
        rw [← sameMode] at onGrid taken
        rw [← samePower] at found₁ taken
        have plans := planned main support s ⟨found₁, sameMode, onGrid, taken⟩
        -- The second plan is made for a snapshot with the other reading and does not look at it.
        exact carryOut_eq alike.units plans c.settings now s reading₂ main support

theorem run_eq_of_alike (alike : Alike c.settings.meter p₁ p₂ sum₁ sum₂)
    (production : sum₁.production = sum₂.production) (energy : SameFile c.energyStore disk₁ disk₂)
    (power : SameFile c.powerStore disk₁ disk₂) :
    (c.run disk₁ p₁ sum₁ now).map (Ran.seen id) = (c.run disk₂ p₂ sum₂ now).map (Ran.seen id) := by
  refine run_eq_of_plan id alike rfl fun main _ s _ => ?_
  exact congrArg (Prod.map id id) (plan_eq production energy power main now s)

/-- What the second of two calls that are alike reads, the first one reads, but for the meter. -/
theorem Alike.reads (alike : Alike c.settings.meter p₁ p₂ sum₁ sum₂) {main support : α}
    {s : Snapshot} (reads : Reads c p₂ sum₂ main support s) :
    ∃ s₁, Reads c p₁ sum₁ main support s₁ ∧ s = { s₁ with gridPower := s.gridPower } := by
  obtain ⟨resolved, mode, onGrid, taken⟩ := reads
  rcases alike.resolve (c := c) with ⟨_, _, none₂⟩ | ⟨reading₁, reading₂, _, _, found₁, found₂⟩
  · cases none₂.symm.trans resolved
  · cases found₂.symm.trans resolved
    have same := c.takeSnapshot_reading c.energyStore c.energyStore c.powerStore c.powerStore main
      support s.gridMode reading₁ s.gridPower alike.consumption
    obtain ⟨s₁, taken₁, read⟩ := map_eq_ok_iff.mp (same.symm.trans taken)
    obtain ⟨sameMode, rfl, -⟩ := takeSnapshot_given taken₁
    rw [← sameMode] at mode onGrid taken₁
    exact ⟨s₁, ⟨found₁, mode, onGrid, taken₁⟩, read.symm⟩

omit [UnitView σ α] in
theorem controller_of_discharge {net : Watts} (known : sum₁.consumption = some net)
    (consumes : 0 < net) {ran : Ran σ} (h : c.run disk₁ p₁ sum₁ now = .ok ran) :
    ran.controller = c := by
  cases run_eq_ok_iff.mp h with
  | unresolved => rfl
  | offGrid => rfl
  | unread => rfl
  | @emitted main _ s _ _ reads _ =>
    obtain ⟨-, -, known'⟩ := takeSnapshot_given reads.taken
    cases known.symm.trans known'
    exact congrArg Prod.snd (c.plan_of_consumption consumes disk₁ main sum₁ now)

omit [UnitView σ α] in
theorem powerStore_of_mustCharge
    (must : ∀ main support s, Reads c p₁ sum₁ main support s →
      mustCharge s (c.reserve disk₁ now) = true) (power : Option Store) {ran : Ran σ}
    (h : (c.withStores c.energyStore power).run disk₁ p₁ sum₁ now = .ok ran) :
    ran.controller.powerStore = power := by
  cases run_eq_ok_iff.mp h with
  | unresolved => rfl
  | offGrid => rfl
  | unread => rfl
  | @emitted main support s _ _ reads _ =>
    obtain ⟨resolved, mode, onGrid, taken⟩ := reads
    exact powerStore_plan (must main support s ⟨resolved, mode, onGrid, taken⟩) power main sum₁

/-- Two calls over the same units and for the same consumption give the same, but for the recorded
meter reading: with the same production and the same forecasts; in a discharge cycle whatever these
are, and the forecasts are kept; and in a cycle that must charge, whatever the power forecast is,
which is kept. -/
theorem run_independent (alike : Alike c.settings.meter p₁ p₂ sum₁ sum₂) (disk₁ disk₂ : Disk)
    (now : Instant) :
    (sum₁.production = sum₂.production → SameFile c.energyStore disk₁ disk₂ →
        SameFile c.powerStore disk₁ disk₂ →
        (c.run disk₁ p₁ sum₁ now).map (Ran.seen id) =
          (c.run disk₂ p₂ sum₂ now).map (Ran.seen id)) ∧
      (∀ net, sum₁.consumption = some net → 0 < net →
        ∀ energy₁ energy₂ power₁ power₂ : Option Store,
          let c₁ := c.withStores energy₁ power₁
          let c₂ := c.withStores energy₂ power₂
          (c₁.run disk₁ p₁ sum₁ now).map (Ran.seen fun _ => ()) =
              (c₂.run disk₂ p₂ sum₂ now).map (Ran.seen fun _ => ()) ∧
            (∀ ran, c₁.run disk₁ p₁ sum₁ now = .ok ran → ran.controller = c₁) ∧
            ∀ ran, c₂.run disk₂ p₂ sum₂ now = .ok ran → ran.controller = c₂) ∧
      (sum₁.production = sum₂.production → SameFile c.energyStore disk₁ disk₂ →
        (∀ main support s, Reads c p₁ sum₁ main support s →
          mustCharge s (c.reserve disk₁ now) = true) →
        ∀ power₁ power₂ : Option Store,
          let c₁ := c.withStores c.energyStore power₁
          let c₂ := c.withStores c.energyStore power₂
          (c₁.run disk₁ p₁ sum₁ now).map (Ran.seen Controller.energyStore) =
              (c₂.run disk₂ p₂ sum₂ now).map (Ran.seen Controller.energyStore) ∧
            (∀ ran, c₁.run disk₁ p₁ sum₁ now = .ok ran → ran.controller.powerStore = power₁) ∧
            ∀ ran, c₂.run disk₂ p₂ sum₂ now = .ok ran → ran.controller.powerStore = power₂) := by
  refine ⟨run_eq_of_alike alike, ?_, ?_⟩
  · intro net known consumes energy₁ energy₂ power₁ power₂
    have known₂ := alike.consumption.symm.trans known
    refine ⟨?_, fun _ => controller_of_discharge known consumes,
      fun _ => controller_of_discharge known₂ consumes⟩
    refine run_eq_of_plan (fun _ => ()) alike rfl fun main _ s reads => ?_
    obtain ⟨-, -, known'⟩ := takeSnapshot_given reads.taken
    cases known.symm.trans known'
    rw [plan_of_consumption _ consumes, plan_of_consumption _ consumes]
    rfl
  · intro production energy must power₁ power₂
    have reserved : c.reserve disk₂ now = c.reserve disk₁ now := by
      simp only [reserve, predict_eq energy]
    have must₂ : ∀ main support s, Reads c p₂ sum₂ main support s →
        mustCharge s (c.reserve disk₂ now) = true := by
      intro main support s reads
      obtain ⟨s₁, reads₁, same⟩ := alike.reads reads
      rw [reserved, same]
      exact must main support s₁ reads₁
    refine ⟨?_, fun _ => powerStore_of_mustCharge must power₁,
      fun _ => powerStore_of_mustCharge must₂ power₂⟩
    refine run_eq_of_plan Controller.energyStore alike rfl fun main support s reads => ?_
    exact plan_eq_of_mustCharge production energy (must main support s reads) power₁ power₂ main

end Run

/-- The follower of the forecast, with another value kept from an earlier look-up. -/
def forecastHolder : Controller :=
  forecastFollower.withStores none (some {
    path := "power.csv"
    signed := true
    cached := some ⟨SimulationSpec.defaultStart, SimulationSpec.defaultStart, -70000⟩ })

def withReading (p : ScriptedPlant) : ScriptedPlant := { p with meterPower := some 7000 }

theorem alike_withReading (p : ScriptedPlant) {sum₁ sum₂ : Aggregates}
    (same : sum₁.consumption = sum₂.consumption) :
    Alike p.meter p (withReading p) sum₁ sum₂ where
  units := rfl
  meter := by
    have first : Plant.meterPower p p.meter = .ok p.meterPower := if_pos rfl
    have second : Plant.meterPower (withReading p) p.meter = .ok (some 7000) := if_pos rfl
    rw [first, second]
    rfl
  consumption := same

theorem forecastFollower_completes : ∃ follows serves charges : Ran ScriptedPlant,
    forecastFollower.run deepDraw halfFullPlant { consumption := some 0 }
      SimulationSpec.defaultStart = .ok follows ∧
    forecastFollower.run deepDraw halfFullPlant { consumption := some 5000 }
      SimulationSpec.defaultStart = .ok serves ∧
    forecastFollower.run deepDraw drainedPlant { consumption := some 0 }
      SimulationSpec.defaultStart = .ok charges ∧
    ∀ main support s, Reads forecastFollower drainedPlant { consumption := some 0 } main support s →
      mustCharge s (forecastFollower.reserve deepDraw SimulationSpec.defaultStart) = true := by
  have trace : (do
      let follows ← (forecastFollower.run deepDraw halfFullPlant { consumption := some 0 }
        SimulationSpec.defaultStart).toOption
      let serves ← (forecastFollower.run deepDraw halfFullPlant { consumption := some 5000 }
        SimulationSpec.defaultStart).toOption
      let charges ← (forecastFollower.run deepDraw drainedPlant { consumption := some 0 }
        SimulationSpec.defaultStart).toOption
      let outcome ← charges.outcome.toOption
      let d ← outcome.dispatch?
      some (decide (mustCharge d.snapshot
        (forecastFollower.reserve deepDraw SimulationSpec.defaultStart) = true))) = some true := by
    decide +kernel
  simp only [Option.bind_eq_bind, Option.bind_eq_some_iff] at trace
  obtain ⟨follows, followed, serves, served, charges, charged, outcome, ended, d, told, must⟩ :=
    trace
  rw [Outcome.eq_dispatched told] at ended
  refine ⟨follows, serves, charges, ok_of_toOption followed, ok_of_toOption served,
    ok_of_toOption charged, ?_⟩
  intro main support s reads
  obtain ⟨_, _, _, run⟩ := dispatches_of_run (ok_of_toOption charged) (ok_of_toOption ended)
  rw [reads.unique run.reads]
  exact of_decide_eq_true (Option.some.inj must)

/-- With another meter reading the follower of the forecast does the same. Without the file and with
another value kept, it discharges the same and charges drained units the same. -/
theorem run_independent_withReading :
    (∃ ran ran' : Ran ScriptedPlant,
      forecastFollower.run deepDraw halfFullPlant { consumption := some 0 }
        SimulationSpec.defaultStart = .ok ran ∧
      forecastFollower.run deepDraw (withReading halfFullPlant)
        { consumption := some 0, storagePower := some 1 } SimulationSpec.defaultStart = .ok ran' ∧
      ran.seen id = ran'.seen id) ∧
    (∃ ran ran' : Ran ScriptedPlant,
      forecastFollower.run deepDraw halfFullPlant { consumption := some 5000 }
        SimulationSpec.defaultStart = .ok ran ∧
      forecastHolder.run .empty (withReading halfFullPlant)
        { consumption := some 5000, production := some 9 } SimulationSpec.defaultStart = .ok ran' ∧
      ran.seen (fun _ => ()) = ran'.seen (fun _ => ()) ∧ ran'.controller = forecastHolder) ∧
    ∃ ran ran' : Ran ScriptedPlant,
      forecastFollower.run deepDraw drainedPlant { consumption := some 0 }
        SimulationSpec.defaultStart = .ok ran ∧
      forecastHolder.run .empty (withReading drainedPlant) { consumption := some 0 }
        SimulationSpec.defaultStart = .ok ran' ∧
      ran.seen Controller.energyStore = ran'.seen Controller.energyStore ∧
      ran.controller.powerStore = forecastFollower.powerStore ∧
      ran'.controller.powerStore = forecastHolder.powerStore := by
  obtain ⟨follows, serves, charges, followed, served, charged, must⟩ := forecastFollower_completes
  have idle : Alike "meter0" halfFullPlant (withReading halfFullPlant) { consumption := some 0 }
      { consumption := some 0, storagePower := some 1 } := alike_withReading halfFullPlant rfl
  have busy : Alike "meter0" halfFullPlant (withReading halfFullPlant)
      { consumption := some 5000 } { consumption := some 5000, production := some 9 } :=
    alike_withReading halfFullPlant rfl
  have drained : Alike "meter0" drainedPlant (withReading drainedPlant) { consumption := some 0 }
      { consumption := some 0 } := alike_withReading drainedPlant rfl
  refine ⟨?_, ?_, ?_⟩
  · obtain ⟨same, -, -⟩ := run_independent (c := forecastFollower) idle deepDraw deepDraw
      SimulationSpec.defaultStart
    obtain ⟨ran', runs, equal⟩ :=
      ok_of_map_eq (same rfl (fun _ _ => rfl) fun _ _ => rfl) followed
    exact ⟨follows, ran', followed, runs, equal⟩
  · obtain ⟨-, same, -⟩ := run_independent (c := forecastFollower) busy deepDraw .empty
      SimulationSpec.defaultStart
    obtain ⟨same, -, kept⟩ := same 5000 rfl (by decide) none none forecastFollower.powerStore
      forecastHolder.powerStore
    obtain ⟨ran', runs, equal⟩ := ok_of_map_eq same served
    exact ⟨serves, ran', served, runs, equal, kept ran' runs⟩
  · obtain ⟨-, -, same⟩ := run_independent (c := forecastFollower) drained deepDraw .empty
      SimulationSpec.defaultStart
    obtain ⟨same, kept, kept'⟩ := same rfl (fun _ h => nomatch h) must forecastFollower.powerStore
      forecastHolder.powerStore
    obtain ⟨ran', runs, equal⟩ := ok_of_map_eq same charged
    exact ⟨charges, ran', charged, runs, equal, kept charges charged,
      kept' ran' runs⟩

end Controller

end HybridStorage
