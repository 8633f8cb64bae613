import HybridStorage.Dispatch.ScriptedPlant
import HybridStorage.Proofs.Envelope
import HybridStorage.Proofs.Run
import HybridStorage.Scenario.Basic

/-!
# Redistribution of power

The main unit is asked for its share and the support unit for all that the main unit leaves. So the
two requests add up to the required power, and what the two set-points miss of it is exactly the
distance from the remainder to what the support unit can deliver. Nothing is lost or counted twice.
-/

namespace HybridStorage

theorem ScriptedUnit.grants {u : ScriptedUnit} (ordered : u.envelope.Ordered) :
    Grants u true u.envelope := ⟨ordered, fun _ _ => rfl⟩

theorem Share.split_sum {s : Share} {required : Watts} {parts : Watts × Watts}
    (h : s.split required = .ok parts) : parts.1.toInt + parts.2.toInt = required.toInt := by
  obtain ⟨rest, left, same⟩ := bind_eq_ok_iff.mp h
  cases same
  have difference := Reading.sub_eq_ok_iff.mp left
  change (Reading.saturate (s.ofRequired required)).toInt + rest.toInt = required.toInt
  omega

namespace Controller

variable {σ α : Type} [StorageUnit α] [Plant σ α]

/-- The support unit makes up for the main unit as far as it can, and what is missing after it is
the distance from the remainder to its range. -/
theorem redistribution_conserves_power {c : Controller} {disk : Disk} {plant : σ}
    {sum : Aggregates} {now : Instant} {ran : Ran σ} {d : Dispatch} {gridPower : Option Watts}
    {main support : α} {mainReady supportReady : Bool}
    {mainEnvelope supportEnvelope : PowerEnvelope}
    (resolved : c.resolve plant = .ok (gridPower, main, support))
    (mainGrants : Grants main mainReady mainEnvelope)
    (supportGrants : Grants support supportReady supportEnvelope)
    (h : c.run disk plant sum now = .ok ran) (dispatched : ran.outcome = .ok (.dispatched d)) :
    d.delivery.mainRequest.toInt + d.delivery.supportRequest.toInt = d.plan.required.toInt ∧
      d.delivery.mainSetPoint = (StorageUnit.grant main now d.delivery.mainRequest).1 ∧
      d.delivery.mainSetPoint =
        (if mainReady then mainEnvelope.clamp d.delivery.mainRequest else 0) ∧
      ∃ rest : Watts,
        rest.toInt = d.plan.required.toInt - d.delivery.mainSetPoint.toInt ∧
        d.delivery.supportSetPoint = (StorageUnit.grant support now rest).1 ∧
        (supportReady = true → (supportEnvelope.side rest).contains rest = true →
          d.delivery.mainSetPoint.toInt + d.delivery.supportSetPoint.toInt =
            d.plan.required.toInt) ∧
        (supportEnvelope.reach supportReady rest).IsDistance rest
          (d.plan.required.toInt - d.delivery.mainSetPoint.toInt -
            d.delivery.supportSetPoint.toInt).natAbs := by
  obtain ⟨main', support', granted, cycle⟩ := dispatches_of_run h dispatched
  cases resolved.symm.trans cycle.reads.resolved
  obtain ⟨split, mainGrant, rest, left, supportGrant⟩ := cycle.delivers
  have mainEq : (StorageUnit.grant main now d.delivery.mainRequest).1 =
      d.delivery.mainSetPoint := congrArg Prod.fst mainGrant
  have supportEq : (StorageUnit.grant support now rest).1 =
      d.delivery.supportSetPoint := congrArg Prod.fst supportGrant
  have remainder := Reading.sub_eq_ok_iff.mp left
  refine ⟨Share.split_sum split, mainEq.symm, ?_, rest, remainder, supportEq.symm, ?_, ?_⟩
  · exact mainEq.symm.trans (mainGrants.granted now _)
  · intro ready member
    have all : d.delivery.supportSetPoint = rest := by
      rw [← supportEq, supportGrants.granted now, ready, if_pos rfl, PowerEnvelope.clamp_eq,
        PowerRange.clamp_of_mem member]
    rw [all]
    omega
  · have distance := PowerRange.clamp_isDistance (supportGrants.reach_ordered rest) rest
    rw [← supportGrants.eq_clamp now, supportEq] at distance
    rw [← remainder]
    exact distance

/-- Two drained units with little power to spare. -/
def drainedPlant : ScriptedPlant where
  main := {
    id := "ess0"
    gridMode := .onGrid
    charge := some 5
    capacity := some 400000
    maxApparent := some 100000
    envelope := ⟨⟨-20000, 0⟩, ⟨0, 20000⟩⟩
    rejectsActive := none
    rejectsReactive := none
    setPoints := {} }
  support := {
    id := "ess1"
    gridMode := .onGrid
    charge := some 5
    capacity := some 276000
    maxApparent := some 300000
    envelope := ⟨⟨-150000, 0⟩, ⟨0, 150000⟩⟩
    rejectsActive := none
    rejectsReactive := none
    setPoints := {} }
  meter := "meter0"
  meterPower := none

/-- Of 200 kW that the drained units are to take, 30 kW are beyond both. -/
theorem redistribution_conserves_power_drained :
    ∃ ran : Ran ScriptedPlant, ∃ d : Dispatch,
      (create .default).run .empty drainedPlant { consumption := some 0 }
        SimulationSpec.defaultStart = .ok ran ∧
      ran.outcome = .ok (.dispatched d) ∧
      d.delivery = ⟨-100000, -100000, -20000, -150000⟩ ∧
      ∃ rest : Watts, rest.toInt = -180000 ∧
        (drainedPlant.support.envelope.reach true rest).IsDistance rest 30000 := by
  have resolved : (create .default).resolve drainedPlant =
      .ok (none, drainedPlant.main, drainedPlant.support) := rfl
  have mainGrants : Grants drainedPlant.main true drainedPlant.main.envelope :=
    ScriptedUnit.grants (by constructor <;> decide)
  have supportGrants : Grants drainedPlant.support true drainedPlant.support.envelope :=
    ScriptedUnit.grants (by constructor <;> decide)
  have ends : (create .default).run .empty drainedPlant { consumption := some 0 }
      SimulationSpec.defaultStart = .ok _ := rfl
  obtain ⟨-, -, -, rest, left, -, -, missing⟩ :=
    redistribution_conserves_power resolved mainGrants supportGrants ends rfl
  exact ⟨_, _, ends, rfl, by decide +kernel, rest, left, missing⟩

end Controller

end HybridStorage
