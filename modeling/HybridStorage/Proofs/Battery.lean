import HybridStorage.Proofs.Envelope
import HybridStorage.Proofs.Results
import HybridStorage.Storage.Battery

/-!
# A battery in a cycle

A battery starts its cycle, answers a request or gets none, and applies what was written to it.
Between two cycles it is at rest: nothing is pending, its power is within its limits, and it
delivers none while it is not ready. Every cycle leaves a battery at rest, whatever is asked of it.
-/

namespace HybridStorage

theorem Readiness.isReady_request (now : Instant) (target : Watts) (r : Readiness) :
    (r.request now target).isReady = r.isReady := by
  cases r with
  | notReady =>
    simp only [request]
    split <;> rfl
  | starting => rfl
  | ready => rfl

theorem Readiness.request_eq (now : Instant) (target : Watts) (r : Readiness) :
    r.request now target = if r = .notReady ∧ target ≠ 0 then .starting now else r := by
  cases r with
  | notReady => simp [request]
  | starting since => rfl
  | ready idleSince => rfl

namespace Battery

/-- The battery after it was asked for a power, if it was, and holds what it granted. -/
def answer (b : Battery) (now : Instant) : Option Watts → Battery
  | none => b
  | some request =>
    let (setPoint, granted) := b.grant now request
    (granted.writeActive setPoint).writeReactive 0

/-- A whole cycle of a battery. -/
def serve (b : Battery) (now : Instant) (request : Option Watts) : Checked Battery :=
  ((b.onCycle now).answer now request).applyPending now

/-- What holds of a battery between two cycles. -/
structure Rested (b : Battery) : Prop where
  pending : b.pending = {}
  above : b.parameters.limits.charge.toInt ≤ b.active.toInt
  below : b.active.toInt ≤ b.parameters.limits.discharge.toInt
  reactive : b.reactive = 0
  idle : b.readiness.isReady = false → b.active = 0

theorem coerce_zero (charge : Percent) : coerce charge 0 = 0 := by
  unfold coerce
  split <;> rfl

theorem coerce_eq_or (charge : Percent) (watts : Watts) :
    coerce charge watts = 0 ∨ coerce charge watts = watts := by
  unfold coerce
  split
  · exact .inl rfl
  · exact .inr rfl

/-- An application puts the pending set-points in force, coerced at the state of charge that the
integration up to it gives. -/
theorem applyPending_eq_ok_iff {b b' : Battery} {now : Instant} :
    b.applyPending now = .ok b' ↔ ∃ state, b.integrate now = .ok state ∧
      b' = { b with
        energy := state.1
        charge := state.2
        active := coerce state.2 (b.pending.active.getD 0)
        reactive := coerce state.2 (b.pending.reactive.getD 0)
        pending := {}
        lastApplied := some now } := by
  simp only [applyPending, applyPower, bind_eq_ok_iff]
  constructor
  · rintro ⟨state, integrated, same⟩
    cases same
    exact ⟨state, integrated, rfl⟩
  · rintro ⟨state, integrated, rfl⟩
    exact ⟨state, integrated, rfl⟩

/-- Asking a battery changes nothing but its readiness: it starts if it was off and is asked for any
power. -/
theorem granted_eq (b : Battery) (now : Instant) (request : Watts) :
    (b.grant now request).2 = { b with
      readiness :=
        if b.readiness = .notReady ∧ request ≠ 0 then .starting now else b.readiness } := by
  unfold grant
  split
  · rw [Readiness.request_eq]
  · next kept =>
    have running : ¬(b.readiness = .notReady ∧ request ≠ 0) := by
      rintro ⟨off, asked⟩
      apply kept
      rw [off]
      exact ⟨rfl, asked⟩
    rw [if_neg running]

theorem parameters_grant (b : Battery) (now : Instant) (target : Watts) :
    (b.grant now target).2.parameters = b.parameters := by
  unfold grant
  split <;> rfl

theorem isReady_grant (b : Battery) (now : Instant) (target : Watts) :
    (b.grant now target).2.readiness.isReady = b.readiness.isReady := by
  unfold grant
  split
  · exact Readiness.isReady_request now target b.readiness
  · rfl

theorem envelope_onCycle (b : Battery) (now : Instant) : (b.onCycle now).envelope =
    b.parameters.envelope (b.onCycle now).readiness.isReady b.active := rfl

theorem grant_of_ready {b : Battery} {now : Instant}
    (ready : (b.onCycle now).readiness.isReady = true) (asked : Instant) (target : Watts) :
    ((b.onCycle now).grant asked target).1 =
      (PowerEnvelope.ramped b.active b.parameters.ramp b.parameters.limits).clamp target := by
  have envelope := envelope_onCycle b now
  rw [ready] at envelope
  rw [grant, if_neg (by simp [ready]), envelope]
  rfl

theorem grant_of_closed {b : Battery} (ready : b.readiness.isReady = false)
    (closed : b.envelope = .closed) (now : Instant) (target : Watts) :
    (b.grant now target).1 = 0 := by
  by_cases nothing : target = 0
  · rw [grant, if_neg (by simp [nothing]), closed, nothing]
    rfl
  · rw [grant, if_pos (by simp [ready, nothing])]

theorem grant_of_not_ready {b : Battery} {now : Instant}
    (ready : (b.onCycle now).readiness.isReady = false) (asked : Instant) (target : Watts) :
    ((b.onCycle now).grant asked target).1 = 0 :=
  grant_of_closed ready (by rw [envelope_onCycle, ready]; rfl) asked target

/-- From the start of a cycle on, a battery grants within the envelope that its readiness and its
power give. -/
theorem grants_onCycle (b : Battery) (now : Instant) :
    Grants (b.onCycle now) (b.onCycle now).readiness.isReady (b.onCycle now).envelope where
  ordered := PowerEnvelope.ordered_compute _ _ _ _
  granted asked target := by
    cases ready : (b.onCycle now).readiness.isReady with
    | true =>
      rw [if_pos rfl, envelope_onCycle, ready]
      exact grant_of_ready ready asked target
    | false => exact grant_of_not_ready ready asked target

theorem admits_grant (b : Battery) (now asked : Instant) (target : Watts) :
    (b.parameters.envelope (b.onCycle now).readiness.isReady b.active).Admits
      ((b.onCycle now).grant asked target).1 := by
  cases ready : (b.onCycle now).readiness.isReady with
  | true =>
    rw [grant_of_ready ready]
    exact (PowerEnvelope.ordered_ramped _ _ _).admits_clamp target
  | false =>
    rw [grant_of_not_ready ready]
    exact PowerEnvelope.admits_closed_iff.mpr rfl

theorem rested_of_create {p : Parameters} {b : Battery} (h : create p = .ok b) : b.Rested := by
  obtain ⟨_, _, same⟩ := bind_eq_ok_iff.mp h
  cases same
  exact ⟨rfl, p.limits.charge_nonpos, p.limits.discharge_nonneg, rfl, fun _ => rfl⟩

theorem parameters_of_create {p : Parameters} {b : Battery} (h : create p = .ok b) :
    b.parameters = p := by
  obtain ⟨_, _, same⟩ := bind_eq_ok_iff.mp h
  cases same
  rfl

theorem active_of_create {p : Parameters} {b : Battery} (h : create p = .ok b) : b.active = 0 := by
  obtain ⟨_, _, same⟩ := bind_eq_ok_iff.mp h
  cases same
  rfl

theorem parameters_of_serve {b b' : Battery} {now : Instant} {request : Option Watts}
    (h : b.serve now request = .ok b') : b'.parameters = b.parameters := by
  obtain ⟨_, _, rfl⟩ := applyPending_eq_ok_iff.mp h
  cases request with
  | none => rfl
  | some request => exact parameters_grant (b.onCycle now) now request

/-- A battery that is asked for nothing delivers nothing, and one that is asked delivers what it
granted unless its state of charge forbids it. -/
theorem active_of_serve {b b' : Battery} {now : Instant} {request : Option Watts}
    (clear : b.pending = {}) (h : b.serve now request = .ok b') :
    b'.pending = {} ∧ b'.reactive = 0 ∧ b'.active =
      coerce b'.charge (request.elim 0 fun watts => ((b.onCycle now).grant now watts).1) := by
  obtain ⟨state, _, rfl⟩ := applyPending_eq_ok_iff.mp h
  refine ⟨rfl, ?_⟩
  cases request with
  | none =>
    have pending : ((b.onCycle now).answer now none).pending = {} := clear
    rw [pending]
    exact ⟨coerce_zero _, rfl⟩
  | some request => exact ⟨coerce_zero _, rfl⟩

theorem isReady_of_serve {b b' : Battery} {now : Instant} {request : Option Watts}
    (h : b.serve now request = .ok b') :
    b'.readiness.isReady = (b.onCycle now).readiness.isReady := by
  obtain ⟨_, _, rfl⟩ := applyPending_eq_ok_iff.mp h
  cases request with
  | none => rfl
  | some request => exact isReady_grant (b.onCycle now) now request

/-- A ready battery moves by at most its ramp rate exactly if the target is in its reach. -/
theorem ramp_kept_iff {b : Battery} {now : Instant} (rested : b.Rested)
    (nonneg : 0 ≤ b.parameters.ramp.toInt) (ready : (b.onCycle now).readiness.isReady = true)
    (asked : Instant) (target : Watts) :
    (((b.onCycle now).grant asked target).1.toInt - b.active.toInt).natAbs ≤
        b.parameters.ramp.toInt ↔
      ¬PowerEnvelope.OutOfReach b.active b.parameters.ramp target := by
  rw [grant_of_ready ready]
  constructor
  · intro kept far
    rw [PowerEnvelope.clamp_ramped_of_outOfReach nonneg _ far, Int32.toInt_zero] at kept
    unfold PowerEnvelope.OutOfReach at far
    omega
  · exact PowerEnvelope.clamp_ramped_of_inReach nonneg rested.above rested.below

theorem rested_of_serve {b b' : Battery} {now : Instant} {request : Option Watts}
    (rested : b.Rested) (h : b.serve now request = .ok b') : b'.Rested := by
  obtain ⟨pending, reactive, active⟩ := active_of_serve rested.pending h
  have none : b'.active = 0 → b.parameters.limits.charge.toInt ≤ b'.active.toInt ∧
      b'.active.toInt ≤ b.parameters.limits.discharge.toInt := by
    intro zero
    rw [zero]
    exact ⟨b.parameters.limits.charge_nonpos, b.parameters.limits.discharge_nonneg⟩
  have within : b.parameters.limits.charge.toInt ≤ b'.active.toInt ∧
      b'.active.toInt ≤ b.parameters.limits.discharge.toInt := by
    rcases coerce_eq_or b'.charge _ with refused | kept
    · exact none (active.trans refused)
    · cases request with
      | none => exact none (active.trans kept)
      | some request =>
        rw [active.trans kept]
        exact PowerEnvelope.within_limits_of_admits (admits_grant b now now request)
  have idle : b'.readiness.isReady = false → b'.active = 0 := by
    intro ready
    rw [isReady_of_serve h] at ready
    rw [active]
    cases request with
    | none => exact coerce_zero _
    | some request =>
      rw [Option.elim_some, grant_of_not_ready ready]
      exact coerce_zero _
  rw [← parameters_of_serve h] at within
  exact ⟨pending, within.1, within.2, reactive, idle⟩

end Battery

end HybridStorage
