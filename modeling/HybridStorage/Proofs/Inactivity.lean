import HybridStorage.Proofs.Startup

/-!
# Shutdown of an idle battery

A battery keeps one instant to time its idleness. In every history that instant is the first of the
latest starts of a cycle that all found the battery ready and without power, and the battery shuts
down exactly at a start of a cycle that comes no less than the timeout after it.
-/

namespace HybridStorage.Battery

variable {b b' : Battery}

/-- The start of a cycle, and what it finds. -/
structure Visit where
  now : Instant
  ready : Bool
  active : Watts
  deriving DecidableEq, Repr

def Visit.isIdle (v : Visit) : Bool := v.ready && v.active = 0

def visit (b : Battery) (now : Instant) : Visit := ⟨now, b.readiness.isReady, b.active⟩

/-- The starts of cycles in a history, the latest first. -/
def visits (b : Battery) : List Operation → List Visit
  | [] => []
  | operation :: rest =>
    match b.perform operation with
    | .error _ => []
    | .ok (_, next) =>
      next.visits rest ++
        match operation with
        | .startCycle now => [b.visit now]
        | _ => []

/-- The first of the latest visits that all found the battery idle. -/
def idleSince (visits : List Visit) : Option Instant :=
  (visits.takeWhile Visit.isIdle).getLast?.map Visit.now

theorem idleSince_of_busy {v : Visit} (busy : v.isIdle = false) (past : List Visit) :
    idleSince (v :: past) = none := by
  simp [idleSince, busy]

theorem idleSince_of_idle {v : Visit} (idle : v.isIdle = true) (past : List Visit) :
    idleSince (v :: past) = some ((idleSince past).getD v.now) := by
  rw [idleSince, List.takeWhile_cons_of_pos idle, List.getLast?_cons, Option.map_some, idleSince]
  cases (past.takeWhile Visit.isIdle).getLast? <;> rfl

/-- What a ready battery keeps is when its idleness began. -/
def Timed (b : Battery) (past : List Visit) : Prop :=
  ∀ since, b.readiness = .ready since → since = idleSince past

/-! ### One start of a cycle -/

theorem advance_of_busy {timing : ReadinessTiming} {now : Instant} {active : Watts}
    {idle : Option Instant} (busy : active ≠ 0) :
    (Readiness.ready idle).advance timing now active = .ready none := if_pos busy

theorem advance_of_idle {timing : ReadinessTiming} {now : Instant} {idle : Option Instant} :
    (Readiness.ready idle).advance timing now 0 =
      if timing.timeout.any (· ≤ now.since (idle.getD now)) then .notReady
      else .ready (some (idle.getD now)) := by
  obtain ⟨response, timeout⟩ := timing
  cases timeout with
  | none => rfl
  | some timeout => simp [Readiness.advance]

theorem advance_eq_notReady_iff {timing : ReadinessTiming} {now : Instant}
    {idle : Option Instant} : (Readiness.ready idle).advance timing now 0 = .notReady ↔
      ∃ timeout, timing.timeout = some timeout ∧ timeout ≤ now.since (idle.getD now) := by
  rw [advance_of_idle, ite_eq_left_iff, Option.any_eq_true]
  simp

theorem Timed.startCycle {past : List Visit} (timed : b.Timed past) (now : Instant) :
    (b.onCycle now).Timed (b.visit now :: past) := by
  intro since ready
  change b.readiness.advance b.parameters.timing now b.active = .ready since at ready
  cases was : b.readiness with
  | notReady =>
    rw [was] at ready
    cases ready
  | starting began =>
    -- The start that makes a battery ready did not find it ready.
    have busy : (b.visit now).isIdle = false := by
      simp [visit, Visit.isIdle, was, Readiness.isReady]
    rw [was, Readiness.advance] at ready
    split at ready
    · cases ready
      rw [idleSince_of_busy busy]
    · cases ready
  | ready idle =>
    rw [was] at ready
    by_cases power : b.active = 0
    · have quiet : (b.visit now).isIdle = true := by
        simp [visit, Visit.isIdle, was, Readiness.isReady, power]
      rw [power, advance_of_idle] at ready
      split at ready
      · cases ready
      · cases ready
        rw [idleSince_of_idle quiet, timed idle was]
        rfl
    · have busy : (b.visit now).isIdle = false := by
        simp [visit, Visit.isIdle, power]
      rw [advance_of_busy power] at ready
      cases ready
      rw [idleSince_of_busy busy]

/-! ### Histories -/

/-- No operation but the start of a cycle touches what a ready battery keeps. -/
theorem ready_of_turn {timing : ReadinessTiming} {active : Watts} {r : Readiness}
    {since : Option Instant} {operation : Operation}
    (other : ∀ now, operation ≠ .startCycle now)
    (h : operation.turn timing active r = .ready since) : r = .ready since := by
  cases operation with
  | startCycle now => exact absurd rfl (other now)
  | grant now target =>
    rw [Operation.turn, Readiness.request_eq] at h
    split at h
    · cases h
    · exact h
  | _ => exact h

theorem timed_of_performAll {past : List Visit} (timed : b.Timed past)
    {operations : List Operation} (h : b.performAll operations = .ok b') :
    b'.Timed (b.visits operations ++ past) := by
  induction operations generalizing b past with
  | nil =>
    cases h
    exact timed
  | cons operation rest ih =>
    obtain ⟨answer, next, performed, others⟩ := performAll_cons_eq_ok_iff.mp h
    simp only [visits, performed, List.append_assoc]
    refine ih ?_ others
    cases operation with
    | startCycle now =>
      cases performed
      exact timed.startCycle now
    | _ =>
      -- Without a visit nothing is added to the past, and a ready battery keeps what it had.
      intro since ready
      rw [(turn_of_perform performed).1] at ready
      exact timed since (ready_of_turn (by simp) ready)

theorem timed_of_create {p : Parameters} (h : create p = .ok b) : b.Timed [] := by
  obtain ⟨_, _, same⟩ := bind_eq_ok_iff.mp h
  cases same
  intro since ready
  change Readiness.initial p.timing = .ready since at ready
  unfold Readiness.initial at ready
  split at ready
  · cases ready
    rfl
  · cases ready

theorem ready_of_isReady {r : Readiness} (ready : r.isReady = true) :
    ∃ idle, r = .ready idle := by
  cases r with
  | ready idle => exact ⟨idle, rfl⟩
  | _ => cases ready

theorem isReady_of_perform {operation : Operation} {answer : Option Watts}
    (endless : b.parameters.timing.timeout = none) (ready : b.readiness.isReady = true)
    (h : b.perform operation = .ok (answer, b')) : b'.readiness.isReady = true := by
  obtain ⟨idle, was⟩ := ready_of_isReady ready
  rw [(turn_of_perform h).1, was]
  cases operation with
  | startCycle now =>
    rw [Operation.turn]
    by_cases power : b.active = 0
    · rw [power, advance_of_idle, endless]
      rfl
    · rw [advance_of_busy power]
      rfl
  | _ => rfl

theorem isReady_of_performAll (endless : b.parameters.timing.timeout = none)
    (ready : b.readiness.isReady = true) {operations : List Operation}
    (h : b.performAll operations = .ok b') : b'.readiness.isReady = true := by
  have keeps := of_performAll_perform
    (P := fun b => b.parameters.timing.timeout = none ∧ b.readiness.isReady = true)
    (fun holds performed => ?_) h ⟨endless, ready⟩
  · exact keeps.2
  · rw [(changes_perform performed).parameters_eq]
    exact ⟨holds.1, isReady_of_perform holds.1 holds.2 performed⟩

/-- A start of a cycle shuts a ready battery down exactly if there is a timeout, no power is
applied, and the idleness that includes this start began no less than the timeout ago. -/
theorem shuts_down_iff_idle {p : Parameters} {new : Battery} {history : List Operation}
    (created : create p = .ok new) (reached : new.performAll history = .ok b)
    (ready : b.readiness.isReady = true) (now : Instant) :
    ((b.onCycle now).readiness = .notReady ↔ ∃ timeout since,
        p.timing.timeout = some timeout ∧ b.active = 0 ∧
          idleSince (b.visit now :: new.visits history) = some since ∧
          timeout ≤ now.since since) ∧
      (b.active ≠ 0 → (b.onCycle now).readiness = .ready none ∧
        idleSince (b.visit now :: new.visits history) = none) ∧
      (p.timing.timeout = none → ∀ later b', b.performAll later = .ok b' →
        b'.readiness.isReady = true) := by
  have parameters : b.parameters = p :=
    (parameters_of_performAll reached).trans (parameters_of_create created)
  have timed := timed_of_performAll (timed_of_create created) reached
  rw [List.append_nil] at timed
  obtain ⟨idle, was⟩ := ready_of_isReady ready
  have turned : (b.onCycle now).readiness =
      (Readiness.ready idle).advance p.timing now b.active := by
    rw [← was, ← parameters]
    rfl
  refine ⟨?_, ?_, ?_⟩
  · rw [turned]
    by_cases power : b.active = 0
    · have quiet : (b.visit now).isIdle = true := by
        simp [visit, Visit.isIdle, ready, power]
      rw [power, advance_eq_notReady_iff, idleSince_of_idle quiet, timed idle was]
      constructor
      · rintro ⟨timeout, configured, expired⟩
        exact ⟨timeout, _, configured, rfl, rfl, expired⟩
      · rintro ⟨timeout, since, configured, -, began, expired⟩
        cases began
        exact ⟨timeout, configured, expired⟩
    · rw [advance_of_busy power]
      simp [power]
  · intro power
    have busy : (b.visit now).isIdle = false := by simp [visit, Visit.isIdle, power]
    exact ⟨by rw [turned, advance_of_busy power], idleSince_of_busy busy _⟩
  · intro endless later b' performed
    rw [← parameters] at endless
    exact isReady_of_performAll endless ready performed

/-- A battery that is started, serves one cycle and then idles for two. -/
def workday (request first second third : Instant) : List Operation :=
  [.grant request 5000, .startCycle first, .setActive 5000, .applyPending first,
    .startCycle second, .applyPending second, .startCycle third, .grant third 0]

theorem shuts_down_iff_idle_workday : ∃ new b history,
    history = workday (hour 8) (hour 9) (hour 10) (hour 11) ∧
      create UnitSpec.sluggishRedox.parameters = .ok new ∧ new.performAll history = .ok b ∧
      b.readiness.isReady = true ∧
      idleSince (b.visit (hour 12) :: new.visits history) = some (hour 11) ∧
      (b.onCycle (hour 12)).readiness = .notReady := by
  generalize day : workday (hour 8) (hour 9) (hour 10) (hour 11) = history
  have trace : (do
      let new ← (create UnitSpec.sluggishRedox.parameters).toOption
      let b ← (new.performAll history).toOption
      some (decide (b.readiness.isReady = true ∧ b.active = 0 ∧
        idleSince (b.visit (hour 12) :: new.visits history) = some (hour 11)))) = some true := by
    rw [← day]
    decide +kernel
  simp only [Option.bind_eq_bind, Option.bind_eq_some_iff] at trace
  obtain ⟨new, created, b, worked, facts⟩ := trace
  obtain ⟨ready, power, began⟩ := of_decide_eq_true (Option.some.inj facts)
  obtain ⟨stops, -, -⟩ := shuts_down_iff_idle (ok_of_toOption created) (ok_of_toOption worked)
    ready (hour 12)
  refine ⟨new, b, history, rfl, ok_of_toOption created, ok_of_toOption worked, ready, began, ?_⟩
  exact stops.mpr ⟨300000000000, hour 11, by decide, power, began, by decide⟩

end HybridStorage.Battery
