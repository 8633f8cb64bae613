import HybridStorage.Proofs.Session
import HybridStorage.Proofs.Violations

/-!
# Powers in a session

Every set-point of a session lies in its unit's envelope. So the powers in force stay within the
limits, and a unit moves by at most its ramp rate, unless it is asked for a power on the other side
of zero while zero is out of its reach: then it drops to zero at once.
-/

namespace HybridStorage.Engine

variable {s : Scenario} {insertable : Battery.Parameters → Prop} {history : List Cycled}
  {e : Engine} {disk disk₁ disk₂ : Disk} {sample sample₁ sample₂ : Sample} {c c₁ c₂ : Cycled}

theorem Session.ramp_nonneg (session : Session s (fun _ => False) history e) {id : String}
    {b : Battery} (found : e.site.unit? id = some b) : 0 ≤ b.parameters.ramp.toInt := by
  refine session.forall_units (P := fun b => 0 ≤ b.parameters.ramp.toInt) ?_ ?_ found
  · intro p b origin created
    rw [Battery.parameters_of_create created]
    rcases origin with never | ⟨u, member, rfl⟩
    · exact never.elim
    · exact Scenario.ramp_nonneg session.valid member
  · intro b b' now request nonneg served
    rw [Battery.parameters_of_serve served]
    exact nonneg

/-- The battery of a unit is new or as the last cycle left it, and the set-point lies in the
envelope that its readiness at the start of the cycle and its power until then give. -/
theorem set_points_within_envelopes (session : Session s (fun _ => True) history e)
    (serves : e.serveNext disk sample = .ok (some c)) :
    (∀ d, c.outcome = .ok (.dispatched d) → ∀ role : UnitRole,
      ∃ b, e.site.unit? (e.controller.settings.unit role) = some b ∧
        ((Battery.create b.parameters = .ok b ∧ b.active = 0) ∨
          ∃ last ∈ history.head?,
            last.engine.site.unit? (e.controller.settings.unit role) = some b) ∧
        (PowerEnvelope.compute (b.onCycle c.record.time).readiness.isReady b.active
          b.parameters.ramp b.parameters.limits).Admits (d.delivery.setPoint role)) ∧
      ∀ id b, c.engine.site.unit? id = some b →
        b.parameters.limits.charge.toInt ≤ b.active.toInt ∧
          b.active.toInt ≤ b.parameters.limits.discharge.toInt ∧ b.reactive = 0 ∧
          (b.readiness.isReady = false → b.active = 0) := by
  obtain ⟨_, now, _, _, serve⟩ := serveNext_eq_ok_some_iff.mp serves
  refine ⟨?_, ?_⟩
  · intro d dispatched role
    obtain ⟨b, found, granted⟩ := granted_of_serve serve dispatched role
    refine ⟨b, found, ?_, ?_⟩
    · rcases session.new_or_left found with created | left
      · exact .inl ⟨created, Battery.active_of_create created⟩
      · exact .inr left
    · rw [time_of_serve serve, ← granted]
      exact Battery.admits_grant b now now (d.request role)
  · intro id b found
    have rested := (session.cycled serves).rested found
    exact ⟨rested.above, rested.below, rested.reactive, rested.idle⟩

/-- A main unit that moves by 100 W a cycle and a support unit that does not move at all. -/
def duskScenario : Scenario :=
  { Scenario.hybrid with
    simulation := { SimulationSpec.default with cycleSeconds := 3600, cycles := 3 }
    controller := { Settings.default with minimumEnergy := 0 }
    units := [{ UnitSpec.default with ramp := 100 },
      { UnitSpec.default with id := "ess1", maxCharge := 0, maxDischarge := 0 }] }

/-- The production fades away, and the main unit charges with 100 W, with 200 W and not at all. -/
structure Dusk (e : Engine) (c₀ c₁ c₂ : Cycled) (d₁ d₂ : Dispatch) (b : Battery) : Prop where
  build : duskScenario.build = .ok (.ok e)
  zeroth : e.serveProduction 782 = some c₀
  first : c₀.engine.serveProduction 434 = some c₁
  second : c₁.engine.serveProduction 0 = some c₂
  dispatched₁ : c₁.outcome = .ok (.dispatched d₁)
  dispatched₂ : c₂.outcome = .ok (.dispatched d₂)
  unit : c₁.engine.site.unit? (c₁.engine.controller.settings.unit .main) = some b
  ramp : b.parameters.ramp = 100
  request : d₂.request .main = 0
  before : c₁.record.main = ⟨some (-200), -200, 50, true⟩
  after : c₂.record.main = ⟨some 0, 0, 50, true⟩

theorem dusk : ∃ e c₀ c₁ c₂ d₁ d₂ b, Dusk e c₀ c₁ c₂ d₁ d₂ b := by
  have trace : (do
      let e ← duskScenario.build.toOption.bind Except.toOption
      let c₀ ← e.serveProduction 782
      let c₁ ← c₀.engine.serveProduction 434
      let c₂ ← c₁.engine.serveProduction 0
      let d₁ ← c₁.dispatch?
      let d₂ ← c₂.dispatch?
      let b ← c₁.engine.site.unit? (c₁.engine.controller.settings.unit .main)
      some (decide (b.parameters.ramp = 100 ∧ d₂.request .main = 0 ∧
        c₁.record.main = ⟨some (-200), -200, 50, true⟩ ∧
        c₂.record.main = ⟨some 0, 0, 50, true⟩))) = some true := by
    decide +kernel
  simp only [Option.bind_eq_bind, Option.bind_eq_some_iff] at trace
  obtain ⟨e, ⟨_, build, valid⟩, c₀, zeroth, c₁, first, c₂, second, d₁, dispatched₁, d₂,
    dispatched₂, b, unit, facts⟩ := trace
  obtain ⟨ramp, request, before, after⟩ := of_decide_eq_true (Option.some.inj facts)
  rw [ok_of_toOption valid] at build
  exact ⟨e, c₀, c₁, c₂, d₁, d₂, b, ok_of_toOption build, zeroth, first, second,
    c₁.dispatch?_eq_some_iff.mp dispatched₁, c₂.dispatch?_eq_some_iff.mp dispatched₂, unit, ramp,
    request, before, after⟩

theorem Dusk.session {e : Engine} {c₀ c₁ c₂ : Cycled} {d₁ d₂ : Dispatch} {b : Battery}
    (dusk : Dusk e c₀ c₁ c₂ d₁ d₂ b) (insertable : Battery.Parameters → Prop) :
    Session duskScenario insertable [c₀] c₀.engine :=
  (Session.built dusk.build).cycled (serveNext_of_serveProduction dusk.zeroth)

theorem set_points_within_envelopes_dusk : ∃ history e c d,
    Session duskScenario (fun _ => True) history e ∧
      e.serveProduction 434 = some c ∧ c.outcome = .ok (.dispatched d) ∧
      (∃ b, e.site.unit? (e.controller.settings.unit .main) = some b ∧
        (PowerEnvelope.compute (b.onCycle c.record.time).readiness.isReady b.active
          b.parameters.ramp b.parameters.limits).Admits (d.delivery.setPoint .main)) ∧
      ∀ id b, c.engine.site.unit? id = some b → b.reactive = 0 := by
  obtain ⟨_, c₀, c₁, _, d₁, _, _, dusk⟩ := dusk
  have session := dusk.session fun _ => True
  have within := set_points_within_envelopes session (serveNext_of_serveProduction dusk.first)
  refine ⟨[c₀], c₀.engine, c₁, d₁, session, dusk.first, dusk.dispatched₁, ?_, ?_⟩
  · obtain ⟨b, found, -, admitted⟩ := within.1 d₁ dusk.dispatched₁ .main
    exact ⟨b, found, admitted⟩
  · intro id b found
    exact (within.2 id b found).2.2.1

/-- A unit that is ready and not held back by its state of charge keeps its ramp rate exactly if the
side of zero that it is asked for is in its reach, and otherwise drops to zero. -/
theorem ramp_kept_iff_inReach (session : Session s (fun _ => False) history e)
    (first : e.serveNext disk₁ sample₁ = .ok (some c₁))
    (second : c₁.engine.serveNext disk₂ sample₂ = .ok (some c₂)) {d : Dispatch}
    (dispatched : c₂.outcome = .ok (.dispatched d)) (role : UnitRole)
    (ready : (c₂.record.unit role).ready = true)
    (kept : (c₂.record.unit role).setPoint = some (c₂.record.unit role).applied) :
    ∃ b, c₁.engine.site.unit? (c₁.engine.controller.settings.unit role) = some b ∧
      (((c₂.record.unit role).applied.toInt - (c₁.record.unit role).applied.toInt).natAbs ≤
          b.parameters.ramp.toInt ↔
        ¬PowerEnvelope.OutOfReach (c₁.record.unit role).applied b.parameters.ramp
          (d.request role)) ∧
      (PowerEnvelope.OutOfReach (c₁.record.unit role).applied b.parameters.ramp (d.request role) →
        (c₂.record.unit role).applied = 0) := by
  obtain ⟨_, now₁, _, _, serve₁⟩ := serveNext_eq_ok_some_iff.mp first
  obtain ⟨_, now₂, _, _, serve₂⟩ := serveNext_eq_ok_some_iff.mp second
  obtain ⟨b, found, granted⟩ := granted_of_serve serve₂ dispatched role
  have rested := (session.cycled first).rested found
  have nonneg := (session.cycled first).ramp_nonneg found
  -- The records of the two cycles tell the power of the battery before and after the second one.
  have before : (c₁.record.unit role).applied = b.active := by
    rw [unit_of_serve serve₁, ← settings_of_serve serve₁, unitRecord_of_unit? found]
  rcases unit?_of_serve serve₂ (c₁.engine.controller.settings.unit role) with
    ⟨absent, -⟩ | ⟨b₁, b₂, present, served, left⟩
  · cases absent.symm.trans found
  · cases found.symm.trans present
    have after := unit_of_serve serve₂ role
    rw [unitRecord_of_unit? left, dispatched] at after
    rw [after] at ready kept
    rw [Battery.isReady_of_serve served] at ready
    have reached : (c₂.record.unit role).applied =
        ((b.onCycle now₂).grant now₂ (d.request role)).1 := by
      rw [after, granted]
      exact (Option.some.inj kept).symm
    rw [before, reached]
    refine ⟨b, found, Battery.ramp_kept_iff rested nonneg ready now₂ _, ?_⟩
    intro far
    rw [Battery.grant_of_ready ready]
    exact PowerEnvelope.clamp_ramped_of_outOfReach nonneg _ far

/-- At dusk the main unit drops from 200 W to zero, twice its ramp rate. -/
theorem ramp_kept_iff_inReach_dusk : ∃ (c₁ c₂ : Cycled) (d : Dispatch) (b : Battery),
    c₁.engine.serveProduction 0 = some c₂ ∧ c₂.outcome = .ok (.dispatched d) ∧
      c₁.engine.site.unit? (c₁.engine.controller.settings.unit .main) = some b ∧
      PowerEnvelope.OutOfReach (c₁.record.unit .main).applied b.parameters.ramp (d.request .main) ∧
      ¬((c₂.record.unit .main).applied.toInt - (c₁.record.unit .main).applied.toInt).natAbs ≤
        b.parameters.ramp.toInt ∧
      (c₂.record.unit .main).applied = 0 := by
  obtain ⟨_, c₀, c₁, c₂, _, d₂, b, dusk⟩ := dusk
  have far : PowerEnvelope.OutOfReach (c₁.record.unit .main).applied b.parameters.ramp
      (d₂.request .main) := by
    rw [dusk.ramp, dusk.request, Record.unit, dusk.before]
    exact .inl (by decide)
  obtain ⟨b', found, iff, zero⟩ := ramp_kept_iff_inReach (dusk.session fun _ => False)
    (serveNext_of_serveProduction dusk.first) (serveNext_of_serveProduction dusk.second)
    dusk.dispatched₂ .main (by rw [Record.unit, dusk.after]) (by rw [Record.unit, dusk.after])
  cases found.symm.trans dusk.unit
  exact ⟨c₁, c₂, d₂, b, dusk.second, dusk.dispatched₂, dusk.unit, far,
    fun kept => iff.mp kept far, zero far⟩

/-- So not every ready unit keeps its ramp rate from one dispatched cycle to the next. -/
theorem ramp_not_always_kept : ¬∀ (s : Scenario) (history : List Cycled) (e : Engine)
    (disk₁ disk₂ : Disk) (sample₁ sample₂ : Sample) (c₁ c₂ : Cycled) (d₁ d₂ : Dispatch)
    (role : UnitRole) (b : Battery), Session s (fun _ => False) history e →
    e.serveNext disk₁ sample₁ = .ok (some c₁) → c₁.engine.serveNext disk₂ sample₂ = .ok (some c₂) →
    c₁.outcome = .ok (.dispatched d₁) → c₂.outcome = .ok (.dispatched d₂) →
    c₁.engine.site.unit? (c₁.engine.controller.settings.unit role) = some b →
    (c₁.record.unit role).ready = true → (c₂.record.unit role).ready = true →
    (c₂.record.unit role).setPoint = some (c₂.record.unit role).applied →
    ((c₂.record.unit role).applied.toInt - (c₁.record.unit role).applied.toInt).natAbs ≤
      b.parameters.ramp.toInt := by
  intro always
  obtain ⟨_, c₀, c₁, c₂, d₁, d₂, b, dusk⟩ := dusk
  have kept := always _ _ _ _ _ _ _ c₁ c₂ d₁ d₂ .main b (dusk.session fun _ => False)
    (serveNext_of_serveProduction dusk.first) (serveNext_of_serveProduction dusk.second)
    dusk.dispatched₁ dusk.dispatched₂ dusk.unit (by rw [Record.unit, dusk.before])
    (by rw [Record.unit, dusk.after]) (by rw [Record.unit, dusk.after])
  rw [Record.unit, Record.unit, dusk.before, dusk.after, dusk.ramp] at kept
  revert kept
  decide

end HybridStorage.Engine
