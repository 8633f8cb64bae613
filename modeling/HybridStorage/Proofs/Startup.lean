import HybridStorage.Proofs.ChargeBounds

/-!
# Start of a battery

A battery that is off stays off until it is asked for a power other than zero. From that request on
it withholds all power, whatever else is asked and done, up to the first start of a cycle that comes
no less than its response time later. `starts_after_response` says so for every history.
-/

namespace HybridStorage.Battery

variable {b b' : Battery} {operation : Operation} {answer : Option Watts}

namespace Operation

/-- What an operation does to the readiness of a battery that delivers `active`. -/
def turn (timing : ReadinessTiming) (active : Watts) (r : Readiness) : Operation → Readiness
  | startCycle now => r.advance timing now active
  | grant now target => r.request now target
  | _ => r

/-- A request for a power other than zero. -/
def asks : Operation → Bool
  | grant _ target => target ≠ 0
  | _ => false

/-- The start of a cycle that comes no less than `response` after `since`. -/
def completes (response : Duration) (since : Instant) : Operation → Bool
  | startCycle now => response ≤ now.since since
  | _ => false

end Operation

/-- The battery grants nothing, whatever it is asked for. -/
def Withholds (b : Battery) : Prop :=
  b.envelope = .closed ∧ ∀ now target, (b.grant now target).1 = 0

/-- Without being ready a battery has the closed envelope. -/
def Gated (b : Battery) : Prop := b.readiness.isReady = false → b.envelope = .closed

/-! ### One operation -/

/-- Only requests and starts of a cycle touch the readiness, and the envelope changes together with
it. -/
theorem turn_of_perform (h : b.perform operation = .ok (answer, b')) :
    b'.readiness = operation.turn b.parameters.timing b.active b.readiness ∧
      (b'.readiness.isReady = b.readiness.isReady ∧ b'.envelope = b.envelope ∨
        b'.envelope = b.parameters.envelope b'.readiness.isReady b.active) := by
  cases operation with
  | startCycle now =>
    cases h
    exact ⟨rfl, .inr rfl⟩
  | grant now target =>
    obtain rfl : (b.grant now target).2 = b' := congrArg Prod.snd (Except.ok.inj h)
    have ready := isReady_grant b now target
    rw [granted_eq] at ready ⊢
    exact ⟨(Readiness.request_eq now target b.readiness).symm, .inl ⟨ready, rfl⟩⟩
  | setActive watts =>
    cases h
    exact ⟨rfl, .inl ⟨rfl, rfl⟩⟩
  | setReactive watts =>
    cases h
    exact ⟨rfl, .inl ⟨rfl, rfl⟩⟩
  | clearSetPoints =>
    cases h
    exact ⟨rfl, .inl ⟨rfl, rfl⟩⟩
  | applyPending now =>
    obtain ⟨_, applied, same⟩ := bind_eq_ok_iff.mp h
    cases same
    obtain ⟨_, _, rfl⟩ := applyPending_eq_ok_iff.mp applied
    exact ⟨rfl, .inl ⟨rfl, rfl⟩⟩
  | applyPower now active reactive =>
    obtain ⟨_, applied, same⟩ := bind_eq_ok_iff.mp h
    cases same
    obtain ⟨_, _, same⟩ := bind_eq_ok_iff.mp applied
    cases same
    exact ⟨rfl, .inl ⟨rfl, rfl⟩⟩

theorem Gated.perform (gated : b.Gated) (h : b.perform operation = .ok (answer, b')) :
    b'.Gated := by
  intro off
  rcases (turn_of_perform h).2 with ⟨same, envelope⟩ | envelope
  · rw [envelope]
    exact gated (same.symm.trans off)
  · rw [envelope, off]
    rfl

theorem Gated.withholds (gated : b.Gated) (off : b.readiness.isReady = false) : b.Withholds :=
  ⟨gated off, fun now target => grant_of_closed off (gated off) now target⟩

/-- Only a request for power starts a battery that is off. -/
theorem notReady_of_perform (off : b.readiness = .notReady) (quiet : operation.asks = false)
    (h : b.perform operation = .ok (answer, b')) : b'.readiness = .notReady := by
  rw [(turn_of_perform h).1, off]
  cases operation with
  | grant now target =>
    have nothing : target = 0 := Decidable.not_not.mp (of_decide_eq_false quiet)
    rw [Operation.turn, Readiness.request, if_neg (by simp [nothing])]
  | _ => rfl

/-- The timer of a starting battery runs on, whatever it is asked for. -/
theorem starting_of_perform {since : Instant} (starting : b.readiness = .starting since)
    (early : operation.completes b.parameters.timing.response since = false)
    (h : b.perform operation = .ok (answer, b')) : b'.readiness = .starting since := by
  rw [(turn_of_perform h).1, starting]
  cases operation with
  | startCycle now => exact if_neg (of_decide_eq_false early)
  | _ => rfl

theorem starting_of_ask {now : Instant} {target : Watts} (off : b.readiness = .notReady)
    (asked : target ≠ 0) (h : b.perform (.grant now target) = .ok (answer, b')) :
    b'.readiness = .starting now := by
  rw [(turn_of_perform h).1, off, Operation.turn, Readiness.request, if_pos asked]

theorem onCycle_of_starting {since now : Instant} (starting : b.readiness = .starting since)
    (elapsed : b.parameters.timing.response ≤ now.since since) :
    (b.onCycle now).readiness = .ready none ∧ (b.onCycle now).envelope =
      .ramped b.active b.parameters.ramp b.parameters.limits := by
  have ready : (b.onCycle now).readiness = .ready none := by
    change b.readiness.advance b.parameters.timing now b.active = .ready none
    rw [starting, Readiness.advance, if_pos elapsed]
  refine ⟨ready, ?_⟩
  rw [envelope_onCycle, ready]
  rfl

/-! ### Histories -/

theorem performAll_append_eq_ok_iff {first second : List Operation} :
    b.performAll (first ++ second) = .ok b' ↔
      ∃ middle, b.performAll first = .ok middle ∧ middle.performAll second = .ok b' := by
  induction first generalizing b with
  | nil =>
    constructor
    · exact fun h => ⟨b, rfl, h⟩
    · rintro ⟨middle, same, h⟩
      cases same
      exact h
  | cons operation rest ih =>
    simp only [List.cons_append, performAll_cons_eq_ok_iff, ih]
    constructor
    · rintro ⟨answer, next, performed, middle, others, h⟩
      exact ⟨middle, ⟨answer, next, performed, others⟩, h⟩
    · rintro ⟨middle, ⟨answer, next, performed, others⟩, h⟩
      exact ⟨answer, next, performed, middle, others, h⟩

theorem parameters_of_performAll {operations : List Operation}
    (h : b.performAll operations = .ok b') : b'.parameters = b.parameters :=
  of_performAll (P := fun later => later.parameters = b.parameters)
    (fun same changes => changes.parameters_eq.trans same) h rfl

theorem Gated.performAll (gated : b.Gated) {operations : List Operation}
    (h : b.performAll operations = .ok b') : b'.Gated :=
  of_performAll_perform (fun holds performed => holds.perform performed) h gated

theorem gated_of_create {p : Parameters} (h : create p = .ok b) : b.Gated := by
  obtain ⟨_, _, same⟩ := bind_eq_ok_iff.mp h
  cases same
  intro off
  change p.envelope (Readiness.initial p.timing).isReady 0 = .closed
  change (Readiness.initial p.timing).isReady = false at off
  rw [off]
  rfl

theorem notReady_of_performAll {operations : List Operation} (off : b.readiness = .notReady)
    (quiet : ∀ operation ∈ operations, operation.asks = false)
    (h : b.performAll operations = .ok b') : b'.readiness = .notReady :=
  of_performAll_allowed (P := fun b => b.readiness = .notReady)
    (fun quiet off performed => notReady_of_perform off quiet performed) quiet h off

theorem starting_of_performAll {since : Instant} {operations : List Operation}
    (starting : b.readiness = .starting since)
    (early : ∀ operation ∈ operations, operation.completes b.parameters.timing.response since = false)
    (h : b.performAll operations = .ok b') : b'.readiness = .starting since := by
  -- That the parameters stay is part of the invariant, since `early` speaks of those at the outset.
  have keeps := of_performAll_allowed
    (P := fun later => later.readiness = .starting since ∧ later.parameters = b.parameters)
    (A := fun operation => operation.completes b.parameters.timing.response since = false)
    (fun early holds performed => ?_) early h ⟨starting, rfl⟩
  · exact keeps.1
  · rw [← holds.2] at early
    exact ⟨starting_of_perform holds.1 early performed,
      (changes_perform performed).parameters_eq.trans holds.2⟩

/-- In any reachable state a battery that is not ready has the closed envelope. One that is off
stays off until the first request for power, at `since` say; it then withholds power until a cycle
starts `response` after `since`, and is ready from that start on. -/
theorem starts_after_response {p : Parameters} {new : Battery} {history : List Operation}
    (created : create p = .ok new) (reached : new.performAll history = .ok b) :
    (b.readiness.isReady = false → b.envelope = .closed) ∧
      (b.readiness = .notReady →
        (∀ idle b', (∀ operation ∈ idle, operation.asks = false) → b.performAll idle = .ok b' →
          b'.readiness = .notReady ∧ b'.Withholds) ∧
        ∀ idle since target later b', (∀ operation ∈ idle, operation.asks = false) → target ≠ 0 →
          (∀ operation ∈ later, operation.completes p.timing.response since = false) →
          b.performAll (idle ++ .grant since target :: later) = .ok b' →
          b'.readiness = .starting since ∧ b'.Withholds ∧
            ∀ now, p.timing.response ≤ now.since since →
              (b'.onCycle now).readiness = .ready none ∧
                (b'.onCycle now).envelope = .ramped b'.active p.ramp p.limits) := by
  have gated := (gated_of_create created).performAll reached
  have parameters : b.parameters = p :=
    (parameters_of_performAll reached).trans (parameters_of_create created)
  refine ⟨gated, fun off => ⟨?_, ?_⟩⟩
  · intro idle b' quiet performed
    have stays := notReady_of_performAll off quiet performed
    exact ⟨stays, (gated.performAll performed).withholds (by rw [stays]; rfl)⟩
  · intro idle since target later b' quiet asked early performed
    have gated' := gated.performAll performed
    have parameters' := (parameters_of_performAll performed).trans parameters
    obtain ⟨before, idled, performed⟩ := performAll_append_eq_ok_iff.mp performed
    obtain ⟨_, started, ask, others⟩ := performAll_cons_eq_ok_iff.mp performed
    have starting := starting_of_ask (notReady_of_performAll off quiet idled) asked ask
    have same : started.parameters = p := by
      rw [(changes_perform ask).parameters_eq, parameters_of_performAll idled, parameters]
    rw [← same] at early
    have waits := starting_of_performAll starting early others
    refine ⟨waits, gated'.withholds (by rw [waits]; rfl), fun now elapsed => ?_⟩
    rw [← parameters'] at elapsed ⊢
    exact onCycle_of_starting waits elapsed

/-- A battery that is asked for nothing, then for charging, and then for other powers in a cycle
that starts an hour too early. -/
theorem starts_after_response_redox : ∃ new b',
    create UnitSpec.redox.parameters = .ok new ∧
      new.performAll ([.startCycle (hour 9), .grant (hour 9) 0] ++
        .grant (hour 9) (-5000) :: [.applyPending (hour 9), .startCycle (hour 8),
          .grant (hour 11) 7000, .grant (hour 12) 0]) = .ok b' ∧
      b'.readiness = .starting (hour 9) ∧ b'.Withholds ∧
      (b'.onCycle (hour 10)).readiness = .ready none ∧
      (b'.onCycle (hour 10)).envelope =
        .ramped b'.active 20000 UnitSpec.redox.parameters.limits := by
  have trace : (do
      let new ← (create UnitSpec.redox.parameters).toOption
      let b' ← (new.performAll ([.startCycle (hour 9), .grant (hour 9) 0] ++
        .grant (hour 9) (-5000) :: [.applyPending (hour 9), .startCycle (hour 8),
          .grant (hour 11) 7000, .grant (hour 12) 0])).toOption
      some (decide (new.readiness = .notReady))) = some true := by
    decide +kernel
  simp only [Option.bind_eq_bind, Option.bind_eq_some_iff] at trace
  obtain ⟨new, created, b', performed, off⟩ := trace
  have off := of_decide_eq_true (Option.some.inj off)
  have unused : new.performAll [] = .ok new := rfl
  obtain ⟨-, gates⟩ := starts_after_response (ok_of_toOption created) unused
  obtain ⟨starting, withheld, opens⟩ := (gates off).2 [.startCycle (hour 9), .grant (hour 9) 0]
    (hour 9) (-5000) [.applyPending (hour 9), .startCycle (hour 8), .grant (hour 11) 7000,
      .grant (hour 12) 0] b'
    (by decide) (by decide) (by decide) (ok_of_toOption performed)
  obtain ⟨ready, envelope⟩ := opens (hour 10) (by decide)
  exact ⟨new, b', ok_of_toOption created, ok_of_toOption performed, starting, withheld, ready,
    envelope⟩

end HybridStorage.Battery
