import HybridStorage.Proofs.GridBalance

/-!
# No power from an earlier cycle

No battery carries a set-point from one cycle into the next, whatever batteries are inserted,
replaced and removed between them. So the powers after a cycle are those that this cycle wrote: a
cycle that did not dispatch leaves every battery idle, and every cycle leaves all batteries but the
main and the support unit idle.
-/

namespace HybridStorage

/-- The active set-point that a run wrote to the unit under an identifier, zero without one. -/
def Settings.setPoint (c : Settings) (outcome : Except DispatchError Outcome) (id : String) :
    Watts :=
  if id = c.supportUnit then (written outcome .support).getD 0
  else if id = c.mainUnit then (written outcome .main).getD 0
  else 0

theorem Settings.setPoint_of_other {c : Settings} {id : String} (notMain : id ≠ c.mainUnit)
    (notSupport : id ≠ c.supportUnit) (outcome : Except DispatchError Outcome) :
    c.setPoint outcome id = 0 := by
  rw [setPoint, if_neg notSupport, if_neg notMain]

theorem written_of_not_dispatched {outcome : Except DispatchError Outcome}
    (ended : ∀ d, outcome ≠ .ok (.dispatched d)) (role : UnitRole) :
    written outcome role = none := by
  unfold written
  split
  · next d => exact absurd rfl (ended d)
  · rfl

theorem Settings.setPoint_of_not_dispatched {outcome : Except DispatchError Outcome}
    (ended : ∀ d, outcome ≠ .ok (.dispatched d)) (c : Settings) (id : String) :
    c.setPoint outcome id = 0 := by
  simp only [setPoint, written_of_not_dispatched ended, Option.getD_none, ite_self]

theorem Settings.asked_of_not_dispatched {outcome : Except DispatchError Outcome}
    (ended : ∀ d, outcome ≠ .ok (.dispatched d)) (c : Settings) (id : String) :
    c.asked outcome id = none := by
  unfold asked
  split
  · next d => exact absurd rfl (ended d)
  · rfl

namespace Engine

variable {start e : Engine} {disk : Disk} {index : Nat} {now : Instant} {sample : Sample}
  {c : Cycled}

def Clear (e : Engine) : Prop := ∀ id b, e.site.unit? id = some b → b.pending = {}

/-- What becomes of an engine, cycle by cycle. Between two cycles new batteries are inserted, or take
the place of others, and batteries are removed. -/
inductive Course (start : Engine) : Engine → Prop where
  | started : Course start start
  | cycled {e : Engine} {disk : Disk} {sample : Sample} {c : Cycled} (before : Course start e)
      (serves : e.serveNext disk sample = .ok (some c)) : Course start c.engine
  | inserted {e : Engine} {p : Battery.Parameters} {b : Battery} (before : Course start e)
      (created : Battery.create p = .ok b) :
      Course start { e with site := (e.site.insertUnit b).2 }
  | removed {e : Engine} (before : Course start e) (id : String) :
      Course start { e with site := (e.site.removeUnit id).2 }

/-- What the unit under an identifier granted of what it was asked is what the run wrote to it. -/
theorem granted_eq_setPoint {b : Battery} (serve : e.serve disk index now sample = .ok c)
    {id : String} (found : e.site.unit? id = some b) :
    ((e.controller.settings.asked c.outcome id).elim 0 fun watts =>
      ((b.onCycle now).grant now watts).1) = e.controller.settings.setPoint c.outcome id := by
  by_cases dispatched : ∃ d, c.outcome = .ok (.dispatched d)
  · obtain ⟨d, dispatched⟩ := dispatched
    have granted (role : UnitRole) (same : id = e.controller.settings.unit role) :
        ((b.onCycle now).grant now (d.request role)).1 = d.delivery.setPoint role := by
      obtain ⟨b', present, granted⟩ := granted_of_serve serve dispatched role
      rw [← same] at present
      cases found.symm.trans present
      exact granted
    rw [Settings.setPoint, dispatched, Settings.asked]
    by_cases isSupport : id = e.controller.settings.supportUnit
    · rw [if_pos isSupport, if_pos isSupport]
      exact granted .support isSupport
    · rw [if_neg isSupport, if_neg isSupport]
      by_cases isMain : id = e.controller.settings.mainUnit
      · rw [if_pos isMain, if_pos isMain]
        exact granted .main isMain
      · rw [if_neg isMain, if_neg isMain]
        rfl
  · have ended (d : Dispatch) : c.outcome ≠ .ok (.dispatched d) := fun h => dispatched ⟨d, h⟩
    rw [Settings.asked_of_not_dispatched ended, Settings.setPoint_of_not_dispatched ended]
    rfl

/-- A cycle applies its own set-points and leaves none behind. -/
theorem powers_of_serve (clear : e.Clear) (serve : e.serve disk index now sample = .ok c)
    {id : String} {b : Battery} (found : c.engine.site.unit? id = some b) :
    b.pending = {} ∧ b.reactive = 0 ∧
      b.active = Battery.coerce b.charge (e.controller.settings.setPoint c.outcome id) := by
  rcases unit?_of_serve serve id with ⟨-, absent⟩ | ⟨before, after, present, turn, left⟩
  · cases absent.symm.trans found
  · cases left.symm.trans found
    obtain ⟨pending, reactive, active⟩ := Battery.active_of_serve (clear id before present) turn
    rw [granted_eq_setPoint serve present] at active
    exact ⟨pending, reactive, active⟩

theorem powers_of_serveNext (clear : e.Clear) (serves : e.serveNext disk sample = .ok (some c))
    {id : String} {b : Battery} (found : c.engine.site.unit? id = some b) :
    b.pending = {} ∧ b.reactive = 0 ∧
      b.active = Battery.coerce b.charge (e.controller.settings.setPoint c.outcome id) := by
  obtain ⟨_, _, clock, _, serve⟩ := serveNext_eq_ok_some_iff.mp serves
  have ticked : { e with clock }.Clear := clear
  exact powers_of_serve ticked serve found

theorem Course.clear (course : Course start e) (clear : start.Clear) : e.Clear := by
  induction course with
  | started => exact clear
  | cycled _ serves ih =>
    intro id b found
    exact (powers_of_serveNext ih serves found).1
  | inserted _ created ih =>
    intro id b found
    rw [Site.unit?_insertUnit] at found
    split at found
    · cases found
      exact (Battery.rested_of_create created).pending
    · exact ih id b found
  | removed _ removed ih =>
    intro id b found
    rw [Site.unit?_removeUnit] at found
    split at found
    · cases found
    · exact ih id b found

/-- A cycle that is recorded as aborted or off the grid leaves every battery idle, and every cycle
leaves all but the main and the support unit idle: each battery has the power that this very cycle
wrote to it, if its state of charge allows it, and holds no set-point before or after the cycle. -/
theorem powers_from_own_cycle_only (course : Course start e) (clear : start.Clear)
    (serves : e.serveNext disk sample = .ok (some c)) :
    e.Clear ∧ c.engine.Clear ∧
      (c.record.status = .aborted ∨ c.record.status = .offGrid →
        ∀ id b, c.engine.site.unit? id = some b → b.active = 0 ∧ b.reactive = 0) ∧
      (∀ id b, c.engine.site.unit? id = some b → id ≠ e.controller.settings.mainUnit →
        id ≠ e.controller.settings.supportUnit → b.active = 0 ∧ b.reactive = 0) ∧
      ∀ id b, c.engine.site.unit? id = some b → b.reactive = 0 ∧
        b.active = Battery.coerce b.charge (e.controller.settings.setPoint c.outcome id) := by
  have before := course.clear clear
  obtain ⟨_, _, _, _, serve⟩ := serveNext_eq_ok_some_iff.mp serves
  have powers {id : String} {b : Battery} (found : c.engine.site.unit? id = some b) :=
    powers_of_serveNext before serves found
  refine ⟨before, fun id b found => (powers found).1, ?_, ?_, fun id b found => (powers found).2⟩
  · intro status id b found
    have ended (d : Dispatch) : c.outcome ≠ .ok (.dispatched d) := by
      intro dispatched
      rw [status_of_serve serve, dispatched] at status
      rcases status with aborted | offGrid
      · cases aborted
      · cases offGrid
    obtain ⟨-, reactive, active⟩ := powers found
    rw [Settings.setPoint_of_not_dispatched ended, Battery.coerce_zero] at active
    exact ⟨active, reactive⟩
  · intro id b found notMain notSupport
    obtain ⟨-, reactive, active⟩ := powers found
    rw [Settings.setPoint_of_other notMain notSupport, Battery.coerce_zero] at active
    exact ⟨active, reactive⟩

/-- Two of three batteries charge. Once the support unit is removed, the next cycle aborts and the
main unit stops. -/
theorem powers_from_own_cycle_only_removed : ∃ e c₀ c₁ b₀ b₁,
    reserveScenario.build = .ok (.ok e) ∧ e.serveProduction 1000 = some c₀ ∧
      { c₀.engine with site := (c₀.engine.site.removeUnit "ess1").2 }.serveProduction 1000 =
        some c₁ ∧
      c₀.engine.site.unit? "ess0" = some b₀ ∧ b₀.active = -4500 ∧ c₁.record.status = .aborted ∧
      c₁.engine.site.unit? "ess0" = some b₁ ∧ b₁.active = 0 ∧ b₁.reactive = 0 := by
  have trace : (do
      let e ← reserveScenario.build.toOption.bind Except.toOption
      let c₀ ← e.serveProduction 1000
      let c₁ ← { c₀.engine with
        site := (c₀.engine.site.removeUnit "ess1").2 }.serveProduction 1000
      let b₀ ← c₀.engine.site.unit? "ess0"
      let b₁ ← c₁.engine.site.unit? "ess0"
      some (decide (b₀.active = -4500 ∧ c₁.record.status = .aborted))) = some true := by
    decide +kernel
  simp only [Option.bind_eq_bind, Option.bind_eq_some_iff] at trace
  obtain ⟨e, ⟨_, build, valid⟩, c₀, served₀, c₁, served₁, b₀, found₀, b₁, found₁, facts⟩ := trace
  obtain ⟨charging, aborted⟩ := of_decide_eq_true (Option.some.inj facts)
  rw [ok_of_toOption valid] at build
  have session : Session reserveScenario (fun _ => False) [] e := .built (ok_of_toOption build)
  have clear : e.Clear := fun id b found => (session.rested found).pending
  have course := (Course.started.cycled (serveNext_of_serveProduction served₀)).removed "ess1"
  obtain ⟨-, -, idle, -⟩ :=
    powers_from_own_cycle_only course clear (serveNext_of_serveProduction served₁)
  exact ⟨e, c₀, c₁, b₀, b₁, ok_of_toOption build, served₀, served₁, found₀, charging, aborted,
    found₁, idle (.inl aborted) "ess0" b₁ found₁⟩

end Engine

end HybridStorage
