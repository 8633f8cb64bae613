import HybridStorage.Proofs.Cycle
import HybridStorage.Scenario.Build

/-!
# What a run leaves alone

A run that does not dispatch leaves the site and the controller as they were. One that dispatches
writes the set-points of the main and of the support unit, and may start these two; nothing else on
the site changes.
-/

namespace HybridStorage

namespace Battery

theorem answer_some (b : Battery) (now : Instant) (request : Watts) :
    b.answer now (some request) = { b with
      readiness := if b.readiness = .notReady ∧ request ≠ 0 then .starting now else b.readiness
      pending := ⟨some (b.grant now request).1, some 0⟩ } := by
  change ((b.grant now request).2.writeActive (b.grant now request).1).writeReactive 0 = _
  rw [granted_eq]
  rfl

end Battery

namespace Controller

theorem plan_stores_only {α : Type} [StorageUnit α] (c : Controller) (disk : Disk) (main : α)
    (sum : Aggregates) (now : Instant) (s : Snapshot) :
    ∃ energyStore powerStore,
      (c.plan disk main sum now s).2 = { c with energyStore, powerStore } := by
  unfold plan
  split
  · exact ⟨_, _, rfl⟩
  · exact ⟨_, _, rfl⟩

variable {c : Controller} {disk : Disk} {s : Site} {sum : Aggregates} {now : Instant}
  {ran : Ran Site}

/-- No battery rejects a set-point, so a run that emits dispatches. -/
theorem unchanged_of_run (h : c.run disk s sum now = .ok ran)
    (notDispatched : ∀ d, ran.outcome ≠ .ok (.dispatched d)) :
    ran.plant = s ∧ ran.controller = c := by
  cases run_eq_ok_iff.mp h with
  | unresolved => exact ⟨rfl, rfl⟩
  | offGrid => exact ⟨rfl, rfl⟩
  | unread => exact ⟨rfl, rfl⟩
  | emitted => exact absurd rfl (notDispatched _)

theorem components_of_run (h : c.run disk s sum now = .ok ran) :
    ran.plant.meters = s.meters ∧ ran.plant.units.ids = s.units.ids := by
  cases run_eq_ok_iff.mp h with
  | unresolved => exact ⟨rfl, rfl⟩
  | offGrid => exact ⟨rfl, rfl⟩
  | unread => exact ⟨rfl, rfl⟩
  | emitted =>
    refine ⟨rfl, ?_⟩
    exact (Roster.ids_replace _ _ _).trans (Roster.ids_replace _ _ _)

theorem controller_of_run (h : c.run disk s sum now = .ok ran) :
    ∃ energyStore powerStore, ran.controller = { c with energyStore, powerStore } := by
  cases run_eq_ok_iff.mp h with
  | unresolved => exact ⟨_, _, rfl⟩
  | offGrid => exact ⟨_, _, rfl⟩
  | unread => exact ⟨_, _, rfl⟩
  | emitted => exact plan_stores_only _ _ _ _ _ _

theorem unit?_of_other (h : c.run disk s sum now = .ok ran) {id : String}
    (notMain : id ≠ c.settings.mainUnit) (notSupport : id ≠ c.settings.supportUnit) :
    ran.plant.unit? id = s.unit? id := by
  rw [unit?_of_run h, Settings.asked_of_other notMain notSupport]
  cases s.unit? id with
  | none => rfl
  | some b => rfl

theorem run_writes_set_points_only (h : c.run disk s sum now = .ok ran) :
    ((∀ d, ran.outcome ≠ .ok (.dispatched d)) → ran.plant = s ∧ ran.controller = c) ∧
      ∀ d, ran.outcome = .ok (.dispatched d) →
        ran.plant.meters = s.meters ∧ ran.plant.units.ids = s.units.ids ∧
          (∃ energyStore powerStore, ran.controller = { c with energyStore, powerStore }) ∧
          (∀ id, id ≠ c.settings.mainUnit → id ≠ c.settings.supportUnit →
            ran.plant.unit? id = s.unit? id) ∧
          ∀ role, ∃ b, s.unit? (c.settings.unit role) = some b ∧
            ran.plant.unit? (c.settings.unit role) = some { b with
              readiness :=
                if b.readiness = .notReady ∧ d.request role ≠ 0 then .starting now
                else b.readiness
              pending := ⟨some (d.delivery.setPoint role), some 0⟩ } := by
  refine ⟨unchanged_of_run h, ?_⟩
  intro d dispatched
  obtain ⟨meters, ids⟩ := components_of_run h
  refine ⟨meters, ids, controller_of_run h, fun id => unit?_of_other h, ?_⟩
  intro role
  obtain ⟨b, found, granted⟩ := granted_of_run h dispatched role
  have different := units_differ_of_run h dispatched
  refine ⟨b, found, ?_⟩
  rw [unit?_of_run h, found, dispatched, Settings.asked_of_role different, Option.map_some,
    Battery.answer_some, granted]

/-- The redox battery is asked for its part of a surplus of 60 kW and starts. A run that does not
know the consumption fails. -/
theorem run_writes_set_points_only_starting : ∃ (e : Engine) (ran failed : Ran Site) (b : Battery),
    Scenario.hybrid.build = .ok (.ok e) ∧
      e.controller.run .empty e.site { consumption := some 0, production := some 60000 }
        SimulationSpec.defaultStart = .ok ran ∧
      e.controller.run .empty e.site {} SimulationSpec.defaultStart = .ok failed ∧
      e.site.unit? (e.controller.settings.unit .main) = some b ∧ b.readiness = .notReady ∧
      ran.plant.unit? (e.controller.settings.unit .main) = some { b with
        readiness := .starting SimulationSpec.defaultStart
        pending := ⟨some 0, some 0⟩ } ∧
      ran.plant.meters = e.site.meters ∧ failed.outcome.isOk = false ∧ failed.plant = e.site ∧
      failed.controller = e.controller := by
  have trace : (do
      let e ← Scenario.hybrid.build.toOption.bind Except.toOption
      let ran ← (e.controller.run .empty e.site
        { consumption := some 0, production := some 60000 }
        SimulationSpec.defaultStart).toOption
      let failed ← (e.controller.run .empty e.site {} SimulationSpec.defaultStart).toOption
      let b ← e.site.unit? (e.controller.settings.unit .main)
      let outcome ← ran.outcome.toOption
      let d ← outcome.dispatch?
      some (decide (b.readiness = .notReady ∧ failed.outcome.isOk = false ∧
        d.request .main ≠ 0 ∧ d.delivery.setPoint .main = 0))) = some true := by
    decide +kernel
  simp only [Option.bind_eq_bind, Option.bind_eq_some_iff] at trace
  obtain ⟨e, ⟨_, build, valid⟩, ran, runs, failed, fails, b, found, outcome, ended, d, told,
    facts⟩ := trace
  rw [ok_of_toOption valid] at build
  obtain ⟨off, error, asked, granted⟩ := of_decide_eq_true (Option.some.inj facts)
  rw [Outcome.eq_dispatched told] at ended
  obtain ⟨-, writes⟩ := run_writes_set_points_only (ok_of_toOption runs)
  obtain ⟨meters, -, -, -, units⟩ := writes d (ok_of_toOption ended)
  obtain ⟨_, present, after⟩ := units .main
  cases found.symm.trans present
  rw [if_pos ⟨off, asked⟩, granted] at after
  obtain ⟨unchanged, -⟩ := run_writes_set_points_only (ok_of_toOption fails)
  have notDispatched : ∀ d, failed.outcome ≠ .ok (.dispatched d) := by
    intro d dispatched
    rw [dispatched] at error
    cases error
  obtain ⟨plant, controller⟩ := unchanged notDispatched
  exact ⟨e, ran, failed, b, ok_of_toOption build, ok_of_toOption runs, ok_of_toOption fails, found,
    off, after, meters, error, plant, controller⟩

end Controller

end HybridStorage
