import HybridStorage.Proofs.Startup
import Mathlib.Data.List.Induction

/-!
# Life of a set-point

A set-point lives from its writing until the battery applies or clears its set-points, or until the
next one for the same power is written. An application puts in force what lives at that time, and
zero for a power without one. `applies_last_written` says so for every history.
-/

namespace HybridStorage

/-- The two powers that set-points are written for, each apart from the other. -/
inductive PowerKind where
  | active
  | reactive
  deriving DecidableEq, Repr

def SetPoints.get (s : SetPoints) : PowerKind → Option Watts
  | .active => s.active
  | .reactive => s.reactive

namespace Battery

namespace Operation

/-- The set-point for a power that an operation writes. -/
def written? : PowerKind → Operation → Option Watts
  | .active, setActive watts => some watts
  | .reactive, setReactive watts => some watts
  | _, _ => none

/-- No set-point outlives the operation. -/
def endsSetPoints : Operation → Bool
  | clearSetPoints => true
  | applyPending _ => true
  | _ => false

/-- The operation integrates energy and puts powers in force. -/
def applies : Operation → Bool
  | applyPending _ => true
  | applyPower _ _ _ => true
  | _ => false

end Operation

/-- The last set-point for a power that was written since none was left, and the position in the
history at which it was. -/
def outstanding (kind : PowerKind) (history : List Operation) : Option (Nat × Watts) :=
  (history.zipIdx.reverse.takeWhile fun entry => !entry.1.endsSetPoints).findSome? fun entry =>
    (entry.1.written? kind).map fun watts => (entry.2, watts)

/-- The last set-point outstanding for a power, zero without one. -/
def lastWritten (kind : PowerKind) (history : List Operation) : Watts :=
  ((outstanding kind history).map Prod.snd).getD 0

/-- The application at one position puts in force what was written at another. -/
def Feeds (kind : PowerKind) (history : List Operation) (written applied : Nat) : Prop :=
  (∃ now, history[applied]? = some (.applyPending now)) ∧
    ∃ watts, outstanding kind (history.take applied) = some (written, watts)

/-! ### One more operation -/

theorem outstanding_concat (kind : PowerKind) (history : List Operation) (operation : Operation) :
    outstanding kind (history ++ [operation]) =
      if operation.endsSetPoints then none
      else ((operation.written? kind).map fun watts => (history.length, watts)).or
        (outstanding kind history) := by
  have last : (history ++ [operation]).zipIdx.reverse =
      (operation, history.length) :: history.zipIdx.reverse := by
    rw [List.zipIdx_append, List.reverse_append]
    simp
  rw [outstanding, last, List.takeWhile_cons]
  cases operation.endsSetPoints with
  | true => rfl
  | false =>
    simp only [Bool.not_false, if_true, List.findSome?_cons]
    cases operation.written? kind <;> rfl

variable {b b' : Battery} {operation : Operation} {answer : Option Watts}

theorem pending_of_perform (kind : PowerKind) (h : b.perform operation = .ok (answer, b')) :
    b'.pending.get kind =
      if operation.endsSetPoints then none
      else (operation.written? kind).or (b.pending.get kind) := by
  cases operation with
  | startCycle now =>
    cases h
    cases kind <;> rfl
  | grant now target =>
    obtain rfl : (b.grant now target).2 = b' := congrArg Prod.snd (Except.ok.inj h)
    rw [granted_eq]
    cases kind <;> rfl
  | setActive watts =>
    cases h
    cases kind <;> rfl
  | setReactive watts =>
    cases h
    cases kind <;> rfl
  | clearSetPoints =>
    cases h
    cases kind <;> rfl
  | applyPending now =>
    obtain ⟨_, applied, same⟩ := bind_eq_ok_iff.mp h
    cases same
    obtain ⟨_, _, rfl⟩ := applyPending_eq_ok_iff.mp applied
    cases kind <;> rfl
  | applyPower now active reactive =>
    obtain ⟨_, applied, same⟩ := bind_eq_ok_iff.mp h
    cases same
    obtain ⟨_, _, same⟩ := bind_eq_ok_iff.mp applied
    cases same
    cases kind <;> rfl

/-- Between two applications the stored energy and the powers in force stay. -/
theorem kept_of_perform (waits : operation.applies = false)
    (h : b.perform operation = .ok (answer, b')) :
    b'.energy = b.energy ∧ b'.charge = b.charge ∧ b'.active = b.active ∧
      b'.reactive = b.reactive := by
  cases operation with
  | grant now target =>
    obtain rfl : (b.grant now target).2 = b' := congrArg Prod.snd (Except.ok.inj h)
    rw [granted_eq]
    exact ⟨rfl, rfl, rfl, rfl⟩
  | applyPending now => cases waits
  | applyPower now active reactive => cases waits
  | _ =>
    cases h
    exact ⟨rfl, rfl, rfl, rfl⟩

/-! ### Histories -/

/-- What a battery holds as pending is what its history has left outstanding. -/
theorem pending_of_performAll {p : Parameters} {new : Battery} {history : List Operation}
    (kind : PowerKind) (created : create p = .ok new) (h : new.performAll history = .ok b) :
    b.pending.get kind = (outstanding kind history).map Prod.snd := by
  induction history using List.reverseRecOn generalizing b with
  | nil =>
    cases h
    obtain ⟨_, _, same⟩ := bind_eq_ok_iff.mp created
    cases same
    cases kind <;> rfl
  | append_singleton history operation ih =>
    obtain ⟨before, earlier, last⟩ := performAll_append_eq_ok_iff.mp h
    obtain ⟨_, _, performed, same⟩ := performAll_cons_eq_ok_iff.mp last
    cases same
    rw [pending_of_perform kind performed, ih earlier, outstanding_concat]
    split
    · rfl
    · cases operation.written? kind <;> rfl

/-- If the last operation of a history ends no set-points, the ones that do lie before it. -/
theorem ends_before_last {history : List Operation} {last : Operation}
    (lives : last.endsSetPoints = false) {ended : Nat}
    (found : (history ++ [last])[ended]? = some operation) (ends : operation.endsSetPoints = true) :
    ended < history.length ∧ history[ended]? = some operation := by
  have within := (List.getElem?_eq_some_iff.mp found).1
  rw [List.length_append, List.length_singleton] at within
  by_cases here : ended = history.length
  · rw [here, List.getElem?_concat_length] at found
    cases found
    cases lives.symm.trans ends
  · have earlier : ended < history.length := by omega
    rw [List.getElem?_append_left earlier] at found
    exact ⟨earlier, found⟩

/-- A set-point that is still outstanding was written after all the operations that end
set-points. -/
theorem ended_before_outstanding {kind : PowerKind} {history : List Operation} {written : Nat}
    {watts : Watts} (left : outstanding kind history = some (written, watts)) :
    written < history.length ∧ ∀ ended operation, history[ended]? = some operation →
      operation.endsSetPoints = true → ended < written := by
  induction history using List.reverseRecOn with
  | nil => cases left
  | append_singleton history last ih =>
    rw [outstanding_concat] at left
    rw [List.length_append, List.length_singleton]
    split at left
    · cases left
    · next lives =>
      rw [Bool.not_eq_true] at lives
      -- Either the last operation wrote it, or an earlier one did and the last one writes nothing.
      cases wrote : last.written? kind with
      | some fresh =>
        rw [wrote] at left
        cases left
        refine ⟨Nat.lt_succ_self _, ?_⟩
        exact fun _ _ found ends => (ends_before_last lives found ends).1
      | none =>
        rw [wrote] at left
        obtain ⟨early, after⟩ := ih left
        refine ⟨Nat.lt_succ_of_lt early, ?_⟩
        intro ended other found ends
        exact after ended other (ends_before_last lives found ends).2 ends

theorem Feeds.before {kind : PowerKind} {history : List Operation} {written i j : Nat}
    (feeds : Feeds kind history written i) (feeds' : Feeds kind history written j) : ¬i < j := by
  intro before
  obtain ⟨⟨now, applied⟩, _, left⟩ := feeds
  obtain ⟨-, _, left'⟩ := feeds'
  obtain ⟨early, -⟩ := ended_before_outstanding left
  have found : (history.take j)[i]? = some (.applyPending now) := by
    rw [List.getElem?_take_of_lt before]
    exact applied
  have late := (ended_before_outstanding left').2 i _ found rfl
  rw [List.length_take] at early
  omega

theorem Feeds.unique {kind : PowerKind} {history : List Operation} {written i j : Nat}
    (feeds : Feeds kind history written i) (feeds' : Feeds kind history written j) : i = j :=
  Nat.le_antisymm (Nat.not_lt.mp (feeds'.before feeds)) (Nat.not_lt.mp (feeds.before feeds'))

/-- In any reachable state an application integrates up to now and puts in force, for each of the
two powers, the last set-point outstanding, coerced at the state of charge it has just found. No
set-point is put in force by two applications, and whatever is done in between leaves the stored
energy and the powers in force alone. -/
theorem applies_last_written {p : Parameters} {new : Battery} {history : List Operation}
    (created : create p = .ok new) (reached : new.performAll history = .ok b) :
    (∀ now, b.applyPending now = (b.integrate now).map fun (energy, charge) => { b with
        energy
        charge
        active := coerce charge (lastWritten .active history)
        reactive := coerce charge (lastWritten .reactive history)
        pending := {}
        lastApplied := some now }) ∧
      (∀ kind written i j, Feeds kind history written i → Feeds kind history written j → i = j) ∧
      ∀ operation answer b', operation.applies = false → b.perform operation = .ok (answer, b') →
        b'.energy = b.energy ∧ b'.charge = b.charge ∧ b'.active = b.active ∧
          b'.reactive = b.reactive := by
  refine ⟨?_, fun _ _ _ _ => Feeds.unique, fun _ _ _ => kept_of_perform⟩
  intro now
  have active : b.pending.active = _ := pending_of_performAll .active created reached
  have reactive : b.pending.reactive = _ := pending_of_performAll .reactive created reached
  rw [lastWritten, lastWritten, ← active, ← reactive, applyPending]
  rfl

/-- Both set-points are cleared, the active one is then written twice around an immediate change of
power and a request, and the reactive one only after the application. -/
def rewriting (early late : Instant) : List Operation :=
  [.setActive 5000, .setReactive 300, .clearSetPoints, .setActive 7000,
    .applyPower early 1000 400, .setActive 8000, .grant early 100, .applyPending late,
    .setReactive 200]

theorem applies_last_written_rewriting : ∃ new b b',
    create UnitSpec.default.parameters = .ok new ∧
      new.performAll (rewriting (hour 9) (hour 10)) = .ok b ∧
      b.active = 8000 ∧ b.reactive = 0 ∧ b.applyPending (hour 11) = .ok b' ∧ b'.active = 0 ∧
      b'.reactive = 200 ∧ b'.energy < b.energy ∧ Feeds .active (rewriting (hour 9) (hour 10)) 5 7 ∧
      ∀ applied, Feeds .active (rewriting (hour 9) (hour 10)) 5 applied → applied = 7 := by
  have trace : (do
      let new ← (create UnitSpec.default.parameters).toOption
      let b ← (new.performAll (rewriting (hour 9) (hour 10))).toOption
      let state ← (b.integrate (hour 11)).toOption
      some (decide (b.active = 8000 ∧ b.reactive = 0 ∧ state.1 < b.energy ∧
        coerce state.2 200 = 200))) = some true := by
    decide +kernel
  simp only [Option.bind_eq_bind, Option.bind_eq_some_iff] at trace
  obtain ⟨new, created, b, performed, state, integrated, facts⟩ := trace
  obtain ⟨active, reactive, drained, kept⟩ := of_decide_eq_true (Option.some.inj facts)
  obtain ⟨applies, once, -⟩ :=
    applies_last_written (ok_of_toOption created) (ok_of_toOption performed)
  have applied := applies (hour 11)
  rw [ok_of_toOption integrated] at applied
  have feeds : Feeds .active (rewriting (hour 9) (hour 10)) 5 7 := ⟨⟨hour 10, rfl⟩, 8000, by decide⟩
  refine ⟨new, b, _, ok_of_toOption created, ok_of_toOption performed, active, reactive, applied,
    coerce_zero _, kept, drained, feeds, ?_⟩
  exact fun other feeds' => once .active 5 other 7 feeds' feeds

end Battery

end HybridStorage
