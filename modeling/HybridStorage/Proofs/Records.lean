import HybridStorage.Proofs.FailSafe

/-!
# Records of the cycles

A record is filled in from several parts of its cycle: its end, the plan, and the units after the
application. In every record of a session they agree with each other.
-/

namespace HybridStorage

namespace Record

/-- Everything is there that the dispatch of a cycle tells. -/
structure Filled (r : Record) : Prop where
  direction : r.direction.isSome = true
  mainArea : r.mainArea.isSome = true
  supportArea : r.supportArea.isSome = true
  required : r.required.isSome = true
  setPoint : ∀ role, (r.unit role).setPoint.isSome = true

structure Blank (r : Record) : Prop where
  direction : r.direction = none
  mainArea : r.mainArea = none
  supportArea : r.supportArea = none
  required : r.required = none
  target : r.target = none
  setPoint : ∀ role, (r.unit role).setPoint = none

/-- A unit applied its set-point, unless it is empty and should discharge or full and should
charge. -/
def Applies (u : UnitRecord) : Prop :=
  ∃ setPoint, u.setPoint = some setPoint ∧
    u.applied =
      if (u.charge = 0 ∧ 0 < setPoint) ∨ (u.charge = 100 ∧ setPoint < 0) then 0 else setPoint

/-- The fields of a record agree with its status and with each other. -/
structure Consistent (r : Record) : Prop where
  dispatched_iff : r.status = .dispatched ↔ r.Filled
  aborted_iff : r.status = .aborted ↔ r.error.isSome = true
  blank : r.status = .aborted ∨ r.status = .offGrid → r.Blank
  error : r.status = .dispatched → r.error = none
  target : r.status = .dispatched → (r.target.isSome = true ↔ r.direction = some .charge)
  discharge : r.status = .dispatched →
    (r.direction = some .discharge ↔ r.production.toInt < r.load.toInt)
  applies : r.status = .dispatched → ∀ role, Applies (r.unit role)

/-- A cycle that was not dispatched tells why, or nothing at all. -/
theorem consistent_of_blank {r : Record} (blank : r.Blank)
    (ended : (r.status = .aborted ∧ r.error.isSome = true) ∨
      (r.status = .offGrid ∧ r.error = none)) : r.Consistent := by
  have notDispatched : r.status ≠ .dispatched := by
    rcases ended with ⟨status, -⟩ | ⟨status, -⟩ <;> rw [status] <;> decide
  refine ⟨⟨fun h => absurd h notDispatched, ?_⟩, ?_, fun _ => blank,
    fun h => absurd h notDispatched, fun h => absurd h notDispatched,
    fun h => absurd h notDispatched, fun h => absurd h notDispatched⟩
  · intro filled
    have some := filled.direction
    rw [blank.direction] at some
    cases some
  · rcases ended with ⟨status, error⟩ | ⟨status, error⟩
    · exact ⟨fun _ => error, fun _ => status⟩
    · rw [status, error]
      exact ⟨nofun, nofun⟩

theorem consistent_withOutcome {r : Record} {outcome : Except DispatchError Outcome}
    (blank : r.Blank) (status : r.status = .aborted) (error : r.error = none)
    (ended : ∀ d, outcome ≠ .ok (.dispatched d)) : (r.withOutcome outcome).Consistent := by
  obtain ⟨direction, mainArea, supportArea, required, target, setPoint⟩ := blank
  match outcome with
  | .error failure =>
    exact consistent_of_blank ⟨direction, mainArea, supportArea, required, target, setPoint⟩
      (.inl ⟨status, rfl⟩)
  | .ok .offGrid =>
    exact consistent_of_blank ⟨direction, mainArea, supportArea, required, target, setPoint⟩
      (.inr ⟨rfl, error⟩)
  | .ok (.dispatched d) => exact absurd rfl (ended d)

end Record

theorem Settings.setPoint_of_role {c : Settings} (different : c.mainUnit ≠ c.supportUnit)
    (d : Dispatch) (role : UnitRole) :
    c.setPoint (.ok (.dispatched d)) (c.unit role) = d.delivery.setPoint role := by
  cases role with
  | main =>
    rw [setPoint, unit, if_neg different, if_pos rfl]
    rfl
  | support =>
    rw [setPoint, unit, if_pos rfl]
    rfl

namespace Engine

variable {s : Scenario} {insertable : Battery.Parameters → Prop} {history : List Cycled}
  {e : Engine} {disk : Disk} {index : Nat} {now : Instant} {sample : Sample} {c : Cycled}
  {d : Dispatch}

/-- A unit of a dispatched cycle applied what was written to it, as far as its state of charge
allows. -/
theorem applies_of_serve (clear : e.Clear) (serve : e.serve disk index now sample = .ok c)
    (dispatched : c.outcome = .ok (.dispatched d)) (role : UnitRole) :
    Record.Applies (c.record.unit role) := by
  obtain ⟨_, _, _, _, steps⟩ := serves_of_serve serve
  have ran := dispatched
  rw [steps.outcome_eq] at ran
  have different := Controller.units_differ_of_run steps.runs ran
  obtain ⟨b, left, -⟩ := applied_of_serve serve dispatched role
  obtain ⟨-, -, active⟩ := powers_of_serve clear serve left
  rw [dispatched, Settings.setPoint_of_role different] at active
  rw [unit_of_serve serve role, unitRecord_of_unit? left, dispatched]
  exact ⟨d.delivery.setPoint role, rfl, active⟩

theorem consistent_of_dispatched (clear : e.Clear)
    (serve : e.serve disk index now sample = .ok c)
    (dispatched : c.outcome = .ok (.dispatched d)) : c.record.Consistent := by
  obtain ⟨_, _, _, _, steps⟩ := serves_of_serve serve
  obtain ⟨net, netted, decided⟩ := plan_of_serve serve dispatched
  have applies := applies_of_serve clear serve dispatched
  have told := steps.record_of_dispatched dispatched
  obtain ⟨-, -, -, direction, required, target⟩ := told
  have areas : c.record.mainArea = some d.snapshot.mainArea ∧
      c.record.supportArea = some d.snapshot.supportArea ∧
      c.record.status = .dispatched ∧ c.record.error = none := by
    rw [steps.record_eq, ← steps.outcome_eq, dispatched]
    exact ⟨rfl, rfl, rfl, rfl⟩
  obtain ⟨mainArea, supportArea, status, error⟩ := areas
  have filled : c.record.Filled := by
    refine ⟨by rw [direction]; rfl, by rw [mainArea]; rfl, by rw [supportArea]; rfl,
      by rw [required]; rfl, ?_⟩
    intro role
    obtain ⟨_, setPoint, -⟩ := applies role
    rw [setPoint]
    rfl
  refine ⟨⟨fun _ => filled, fun _ => status⟩, ?_, ?_, fun _ => error, fun _ => ?_, fun _ => ?_,
    fun _ => applies⟩
  · rw [status, error]
    exact ⟨nofun, nofun⟩
  · rw [status]
    rintro (aborted | offGrid)
    · cases aborted
    · cases offGrid
  · rw [direction, target]
    rcases decided with ⟨-, discharges, none, -⟩ | ⟨-, charges, -, aim, aimed, -⟩
    · rw [discharges, none]
      exact ⟨nofun, nofun⟩
    · rw [charges, aimed]
      exact ⟨fun _ => rfl, fun _ => rfl⟩
  · rw [direction]
    rcases decided with ⟨consumes, discharges, -⟩ | ⟨spare, charges, -⟩
    · rw [discharges]
      exact ⟨fun _ => by omega, fun _ => rfl⟩
    · rw [charges]
      exact ⟨nofun, fun less => by omega⟩

theorem consistent_of_serve (clear : e.Clear) (serve : e.serve disk index now sample = .ok c) :
    c.record.Consistent := by
  by_cases dispatched : ∃ d, c.outcome = .ok (.dispatched d)
  · obtain ⟨d, dispatched⟩ := dispatched
    exact consistent_of_dispatched clear serve dispatched
  · obtain ⟨_, _, _, _, steps⟩ := serves_of_serve serve
    have ended (d : Dispatch) : c.outcome ≠ .ok (.dispatched d) := fun h => dispatched ⟨d, h⟩
    rw [steps.outcome_eq] at ended
    rw [steps.record_eq]
    -- Before the outcome is filled in the record is blank, its units included.
    refine Record.consistent_withOutcome ⟨rfl, rfl, rfl, rfl, rfl, ?_⟩ rfl rfl ended
    intro role
    cases role with
    | main => exact setPoint_unitRecord _ _
    | support => exact setPoint_unitRecord _ _

/-- What holds of every cycle that a session goes on with holds of all its cycles. -/
theorem Session.forall_cycled {P : Cycled → Prop} (session : Session s insertable history e)
    (each : ∀ {history e disk sample c}, Session s insertable history e →
      e.serveNext disk sample = .ok (some c) → P c) : ∀ c ∈ history, P c := by
  induction session with
  | built => exact fun c member => nomatch member
  | cycled before serves ih => exact List.forall_mem_cons.mpr ⟨each before serves, ih⟩
  | inserted _ _ _ ih => exact ih
  | removed _ _ ih => exact ih

theorem Session.consistent (session : Session s insertable history e) :
    ∀ c ∈ history, c.record.Consistent := by
  refine session.forall_cycled ?_
  intro _ e _ _ c before serves
  obtain ⟨_, _, clock, _, serve⟩ := serveNext_eq_ok_some_iff.mp serves
  have clear : { e with clock }.Clear := fun _ _ found => (before.rested found).pending
  exact consistent_of_serve clear serve

/-- Every record of a session is consistent, whatever load and production were and whatever units
were inserted and removed, and so is every record of a run of the engine with its own profiles. -/
theorem records_consistent (session : Session s (fun _ => True) history e) :
    (∀ c ∈ history, c.record.Consistent) ∧
      ∀ disk n records e', e.steps disk n = .ok (records, e') → ∀ r ∈ records, r.Consistent := by
  refine ⟨session.consistent, ?_⟩
  intro disk n records e' run
  -- The run goes on with the session, so its records are those of the session's latest cycles.
  obtain ⟨later, continued, rfl⟩ := session.steps run
  intro r member
  obtain ⟨c, served, rfl⟩ := List.mem_map.mp (List.mem_reverse.mp member)
  exact continued.consistent c (List.mem_append_left history served)

def fullScenario : Scenario :=
  { Scenario.hybrid with
    units := [{ UnitSpec.default with initialCharge := 100 },
      { UnitSpec.default with id := "ess1", initialCharge := 100 }] }

/-- Both units should charge and cannot. Once the support unit is removed, the next cycle aborts. -/
theorem records_consistent_full : ∃ e c₀ c₁, fullScenario.build = .ok (.ok e) ∧
    e.serveProduction 10000 = some c₀ ∧
    { c₀.engine with site := (c₀.engine.site.removeUnit "ess1").2 }.serveProduction 10000 =
      some c₁ ∧
    c₀.record.status = .dispatched ∧ c₀.record.main = ⟨some (-5000), 0, 100, true⟩ ∧
    c₁.record.status = .aborted ∧
    c₁.record.error = some (DispatchError.componentNotFound "ess1").message ∧
    (∀ role, Record.Applies (c₀.record.unit role)) ∧ c₀.record.target.isSome = true ∧
    c₁.record.Blank := by
  have trace : (do
      let e ← fullScenario.build.toOption.bind Except.toOption
      let c₀ ← e.serveProduction 10000
      let c₁ ← { c₀.engine with
        site := (c₀.engine.site.removeUnit "ess1").2 }.serveProduction 10000
      some (decide (c₀.record.status = .dispatched ∧ c₀.record.direction = some .charge ∧
        c₀.record.main = ⟨some (-5000), 0, 100, true⟩ ∧ c₁.record.status = .aborted ∧
        c₁.record.error =
          some (DispatchError.componentNotFound "ess1").message))) = some true := by
    decide +kernel
  simp only [Option.bind_eq_bind, Option.bind_eq_some_iff] at trace
  obtain ⟨e, ⟨_, build, valid⟩, c₀, served₀, c₁, served₁, facts⟩ := trace
  obtain ⟨dispatched, charges, main, aborted, error⟩ := of_decide_eq_true (Option.some.inj facts)
  rw [ok_of_toOption valid] at build
  have session : Session fullScenario (fun _ => True) [] e := .built (ok_of_toOption build)
  have shrunk := (session.cycled (serveNext_of_serveProduction served₀)).removed "ess1"
  have later := shrunk.cycled (serveNext_of_serveProduction served₁)
  obtain ⟨consistent, -⟩ := records_consistent later
  have first := consistent c₀ (List.mem_cons_of_mem c₁ List.mem_cons_self)
  have second := consistent c₁ List.mem_cons_self
  exact ⟨e, c₀, c₁, ok_of_toOption build, served₀, served₁, dispatched, main, aborted, error,
    first.applies dispatched, (first.target dispatched).mpr charges, second.blank (.inl aborted)⟩

end Engine

end HybridStorage
