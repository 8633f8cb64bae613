import HybridStorage.Proofs.Redistribution
import HybridStorage.Proofs.Site

/-!
# Emission of both set-points or of neither

A unit can reject its active or its reactive set-point, and each of the four writes of a cycle can
fail. After a dispatched run both units hold exactly what they were granted, after any other run
neither holds anything, and the error says which unit rejected what.
-/

namespace HybridStorage

/-- A unit whose set-points can be looked at. A write that it accepts stores the value and a
rejection carries its name. Asking it stores nothing. -/
class LawfulUnit (α : Type) [StorageUnit α] where
  setPoints : α → SetPoints
  setActive_ok : ∀ {u written : α} {watts : Watts}, StorageUnit.setActive u watts = .ok written →
    setPoints written = { setPoints u with active := some watts } ∧
      StorageUnit.id written = StorageUnit.id u
  setReactive_ok : ∀ {u written : α} {watts : Watts},
    StorageUnit.setReactive u watts = .ok written →
      setPoints written = { setPoints u with reactive := some watts } ∧
        StorageUnit.id written = StorageUnit.id u
  setActive_error : ∀ {u : α} {watts : Watts} {error : DispatchError},
    StorageUnit.setActive u watts = .error error →
      ∃ reason, error = .setPointRejected (StorageUnit.id u) reason
  setReactive_error : ∀ {u : α} {watts : Watts} {error : DispatchError},
    StorageUnit.setReactive u watts = .error error →
      ∃ reason, error = .setPointRejected (StorageUnit.id u) reason
  setPoints_clear : ∀ u : α, setPoints (StorageUnit.clearSetPoints u) = {}
  id_clear : ∀ u : α, StorageUnit.id (StorageUnit.clearSetPoints u) = StorageUnit.id u
  setPoints_grant : ∀ (u : α) (now : Instant) (target : Watts),
    setPoints (StorageUnit.grant u now target).2 = setPoints u
  id_grant : ∀ (u : α) (now : Instant) (target : Watts),
    StorageUnit.id (StorageUnit.grant u now target).2 = StorageUnit.id u

/-- A plant whose units can be looked at, switched off or not. What is put back is found again. -/
class LawfulPlant (σ : Type) {α : Type} [Plant σ α] where
  units? : σ → String → String → Option (α × α)
  units?_of_unitPair : ∀ {plant : σ} {first second : String} {pair : α × α},
    Plant.unitPair plant first second = .ok pair → units? plant first second = some pair
  units?_putPair : ∀ {plant : σ} {first second : String} {old : α × α} (new : α × α),
    units? plant first second = some old →
      units? (Plant.putPair plant first second new) first second = some new

instance : LawfulUnit Battery where
  setPoints b := b.pending
  setActive_ok h := by cases h; exact ⟨rfl, rfl⟩
  setReactive_ok h := by cases h; exact ⟨rfl, rfl⟩
  setActive_error h := by cases h
  setReactive_error h := by cases h
  setPoints_clear _ := rfl
  id_clear _ := rfl
  setPoints_grant b now target := by
    change (b.grant now target).2.pending = b.pending
    unfold Battery.grant
    split <;> rfl
  id_grant b now target := by
    change (b.grant now target).2.parameters.id = b.parameters.id
    unfold Battery.grant
    split <;> rfl

namespace ScriptedUnit

theorem accept_ok {u written : ScriptedUnit} {reason : Option String} {accepted : SetPoints}
    (h : u.accept reason accepted = .ok written) : written = { u with setPoints := accepted } := by
  unfold accept at h
  split at h
  · cases h
  · cases h
    rfl

theorem accept_error {u : ScriptedUnit} {reason : Option String} {accepted : SetPoints}
    {error : DispatchError} (h : u.accept reason accepted = .error error) :
    ∃ reason, error = .setPointRejected u.id reason := by
  unfold accept at h
  split at h
  · cases h
    exact ⟨_, rfl⟩
  · cases h

instance : LawfulUnit ScriptedUnit where
  setPoints := ScriptedUnit.setPoints
  setActive_ok h := by cases accept_ok h; exact ⟨rfl, rfl⟩
  setReactive_ok h := by cases accept_ok h; exact ⟨rfl, rfl⟩
  setActive_error h := accept_error h
  setReactive_error h := accept_error h
  setPoints_clear _ := rfl
  id_clear _ := rfl
  setPoints_grant _ _ _ := rfl
  id_grant _ _ _ := rfl

end ScriptedUnit

instance : LawfulPlant ScriptedPlant where
  units? p _ _ := some (p.main, p.support)
  units?_of_unitPair {plant first second pair} h := by
    change (if first = plant.main.id ∧ second = plant.support.id then _ else _) = _ at h
    split at h
    · cases h
      rfl
    · cases h
  units?_putPair _ _ := rfl

instance : LawfulPlant Site where
  units? s first second :=
    if first = second then none
    else (s.unit? first).bind fun a => (s.unit? second).map fun b => (a, b)
  units?_of_unitPair {plant first second pair} h := by
    obtain ⟨different, foundFirst, -, foundSecond, -⟩ := Site.unitPair_eq_ok_iff.mp h
    rw [if_neg different, foundFirst, foundSecond]
    rfl
  units?_putPair {plant first second old} new held := by
    by_cases shared : first = second
    · rw [if_pos shared] at held
      cases held
    · rw [if_neg shared] at held ⊢
      obtain ⟨a, foundFirst, held⟩ := Option.bind_eq_some_iff.mp held
      obtain ⟨b, foundSecond, -⟩ := Option.map_eq_some_iff.mp held
      rw [Site.unit?_putPair, Site.unit?_putPair, foundFirst, foundSecond]
      simp [shared]

namespace Controller

section Units

variable {α : Type} [StorageUnit α]

/-- The unit takes the active set-point and then a reactive one of zero. -/
def Accepts (u : α) (active : Watts) : Prop :=
  ∃ written, StorageUnit.setActive u active = .ok written ∧
    ∃ last, StorageUnit.setReactive written 0 = .ok last

/-- The unit rejects the active set-point, or the reactive one after it took the active one. -/
def Rejects (u : α) (active : Watts) (error : DispatchError) : Prop :=
  StorageUnit.setActive u active = .error error ∨
    ∃ written, StorageUnit.setActive u active = .ok written ∧
      StorageUnit.setReactive written 0 = .error error

theorem accepts_or_rejects (u : α) (active : Watts) :
    Accepts u active ∨ ∃ error, Rejects u active error := by
  cases first : StorageUnit.setActive u active with
  | error error => exact .inr ⟨error, .inl first⟩
  | ok written =>
    cases second : StorageUnit.setReactive written 0 with
    | error error => exact .inr ⟨error, .inr ⟨written, first, second⟩⟩
    | ok last => exact .inl ⟨written, first, last, second⟩

variable [LawfulUnit α]

theorem writeSetPoints_of_accepts {u : α} {active : Watts} (accepts : Accepts u active) :
    ∃ last, writeSetPoints u active = (last, .ok ()) ∧
      LawfulUnit.setPoints last = ⟨some active, some 0⟩ ∧
      StorageUnit.id last = StorageUnit.id u := by
  obtain ⟨written, first, last, second⟩ := accepts
  obtain ⟨stored, same⟩ := LawfulUnit.setActive_ok first
  obtain ⟨storedBoth, sameBoth⟩ := LawfulUnit.setReactive_ok second
  refine ⟨last, ?_, ?_, sameBoth.trans same⟩
  · simp only [writeSetPoints, first, second]
  · rw [storedBoth, stored]

theorem writeSetPoints_of_rejects {u : α} {active : Watts} {error : DispatchError}
    (rejects : Rejects u active error) :
    (∃ cleared, writeSetPoints u active = (cleared, .error error) ∧
      LawfulUnit.setPoints cleared = {} ∧ StorageUnit.id cleared = StorageUnit.id u) ∧
      ∃ reason, error = .setPointRejected (StorageUnit.id u) reason := by
  rcases rejects with first | ⟨written, first, second⟩
  · refine ⟨⟨StorageUnit.clearSetPoints u, ?_, LawfulUnit.setPoints_clear u,
      LawfulUnit.id_clear u⟩, LawfulUnit.setActive_error first⟩
    simp only [writeSetPoints, first]
  · obtain ⟨-, same⟩ := LawfulUnit.setActive_ok first
    obtain ⟨reason, named⟩ := LawfulUnit.setReactive_error second
    refine ⟨⟨StorageUnit.clearSetPoints written, ?_, LawfulUnit.setPoints_clear written,
      (LawfulUnit.id_clear written).trans same⟩, reason, ?_⟩
    · simp only [writeSetPoints, first, second]
    · rw [named, same]

/-- Nothing is written to the support unit once the main unit has rejected its set-points. -/
theorem emit_of_main_rejects {d : Delivery} {main : α} {error : DispatchError} (support : α)
    (rejects : Rejects main d.mainSetPoint error) :
    ∃ cleared, emit d main support = ((cleared, support), .error error) ∧
      LawfulUnit.setPoints cleared = {} := by
  obtain ⟨⟨cleared, wrote, empty, -⟩, -⟩ := writeSetPoints_of_rejects rejects
  exact ⟨cleared, by simp only [emit, wrote], empty⟩

theorem emit_of_support_rejects {d : Delivery} {main support : α} {error : DispatchError}
    (accepts : Accepts main d.mainSetPoint) (rejects : Rejects support d.supportSetPoint error) :
    ∃ withdrawn cleared,
      emit d main support = ((withdrawn, cleared),
        .error (.partialEmission (StorageUnit.id main) (StorageUnit.id support) error.message)) ∧
      LawfulUnit.setPoints withdrawn = {} ∧ LawfulUnit.setPoints cleared = {} := by
  obtain ⟨written, wroteMain, -, sameMain⟩ := writeSetPoints_of_accepts accepts
  obtain ⟨⟨cleared, wroteSupport, empty, sameSupport⟩, -⟩ := writeSetPoints_of_rejects rejects
  refine ⟨StorageUnit.clearSetPoints written, cleared, ?_, LawfulUnit.setPoints_clear written,
    empty⟩
  simp only [emit, wroteMain, wroteSupport, sameMain, sameSupport]

theorem emit_of_accepts {d : Delivery} {main support : α}
    (mainAccepts : Accepts main d.mainSetPoint)
    (supportAccepts : Accepts support d.supportSetPoint) :
    ∃ mainWritten supportWritten, emit d main support = ((mainWritten, supportWritten), .ok ()) ∧
      LawfulUnit.setPoints mainWritten = ⟨some d.mainSetPoint, some 0⟩ ∧
      LawfulUnit.setPoints supportWritten = ⟨some d.supportSetPoint, some 0⟩ := by
  obtain ⟨mainWritten, wroteMain, storedMain, -⟩ := writeSetPoints_of_accepts mainAccepts
  obtain ⟨supportWritten, wroteSupport, storedSupport, -⟩ :=
    writeSetPoints_of_accepts supportAccepts
  exact ⟨mainWritten, supportWritten, by simp only [emit, wroteMain, wroteSupport], storedMain,
    storedSupport⟩

end Units

/-- What both units hold after a run: the set-points of a dispatched one, else nothing. -/
def Holds (outcome : Except DispatchError Outcome) (main support : SetPoints) : Prop :=
  match outcome with
  | .ok (.dispatched d) =>
    main = ⟨some d.delivery.mainSetPoint, some 0⟩ ∧
      support = ⟨some d.delivery.supportSetPoint, some 0⟩
  | _ => main = {} ∧ support = {}

/-- Whatever the units reject, they hold what the outcome says. -/
theorem holds_emit {α : Type} [StorageUnit α] [LawfulUnit α] {now : Instant} {s : Snapshot}
    {p : Plan} {d : Delivery} {main support : α}
    (supportEmpty : LawfulUnit.setPoints support = {}) :
    Holds ((emit d main support).2.map fun () => .dispatched ⟨now, s, p, d⟩)
      (LawfulUnit.setPoints (emit d main support).1.1)
      (LawfulUnit.setPoints (emit d main support).1.2) := by
  rcases accepts_or_rejects main d.mainSetPoint with mainAccepts | ⟨error, mainRejects⟩
  · rcases accepts_or_rejects support d.supportSetPoint with supportAccepts | ⟨error, rejects⟩
    · obtain ⟨_, _, emitted, storedMain, storedSupport⟩ :=
        emit_of_accepts mainAccepts supportAccepts
      rw [emitted]
      exact ⟨storedMain, storedSupport⟩
    · obtain ⟨_, _, emitted, emptyMain, emptySupport⟩ := emit_of_support_rejects mainAccepts rejects
      rw [emitted]
      exact ⟨emptyMain, emptySupport⟩
  · obtain ⟨_, emitted, emptyMain⟩ := emit_of_main_rejects support mainRejects
    rw [emitted]
    exact ⟨emptyMain, supportEmpty⟩

section Run

variable {σ α : Type} [StorageUnit α] [Plant σ α]

theorem setPoints_of_delivers [LawfulUnit α] {p : Plan} {now : Instant} {main support : α}
    {d : Delivery} {granted : α × α} (delivers : Delivers p now main support d granted) :
    LawfulUnit.setPoints granted.1 = LawfulUnit.setPoints main ∧
      LawfulUnit.setPoints granted.2 = LawfulUnit.setPoints support ∧
      StorageUnit.id granted.1 = StorageUnit.id main ∧
      StorageUnit.id granted.2 = StorageUnit.id support := by
  obtain ⟨-, mainGrant, rest, -, supportGrant⟩ := delivers
  have mainAfter := congrArg Prod.snd mainGrant
  have supportAfter := congrArg Prod.snd supportGrant
  dsimp only at mainAfter supportAfter
  rw [← mainAfter, ← supportAfter]
  exact ⟨LawfulUnit.setPoints_grant _ _ _, LawfulUnit.setPoints_grant _ _ _,
    LawfulUnit.id_grant _ _ _, LawfulUnit.id_grant _ _ _⟩

/-- The stored set-points are all or nothing, whatever the units reject, and the error of a run
that reached the emission is the main unit's own rejection, or tells that the main unit's
set-points were withdrawn because of the support unit's. -/
theorem set_points_all_or_nothing [LawfulUnit α] [LawfulPlant σ] {c : Controller} {disk : Disk}
    {plant : σ} {sum : Aggregates} {now : Instant} {ran : Ran σ} {main support : α}
    (held : LawfulPlant.units? plant c.settings.mainUnit c.settings.supportUnit =
      some (main, support))
    (mainEmpty : LawfulUnit.setPoints main = {}) (supportEmpty : LawfulUnit.setPoints support = {})
    (h : c.run disk plant sum now = .ok ran) :
    ∃ main' support' : α,
      LawfulPlant.units? ran.plant c.settings.mainUnit c.settings.supportUnit =
        some (main', support') ∧
      Holds ran.outcome (LawfulUnit.setPoints main') (LawfulUnit.setPoints support') ∧
      ∀ (s : Snapshot) (d : Delivery) (granted : α × α),
        Reads c plant sum main support s →
        Delivers (c.plan disk main sum now s).1 now main support d granted →
        (∀ error, Rejects granted.1 d.mainSetPoint error →
          ran.outcome = .error error ∧
            (∃ reason, error = .setPointRejected (StorageUnit.id main) reason) ∧
            support' = granted.2) ∧
        (Accepts granted.1 d.mainSetPoint → ∀ error, Rejects granted.2 d.supportSetPoint error →
          ran.outcome = .error (.partialEmission (StorageUnit.id main) (StorageUnit.id support)
            error.message) ∧
            ∃ reason, error = .setPointRejected (StorageUnit.id support) reason) ∧
        (Accepts granted.1 d.mainSetPoint → Accepts granted.2 d.supportSetPoint →
          ∃ dispatch, ran.outcome = .ok (.dispatched dispatch) ∧ dispatch.delivery = d) := by
  cases run_eq_ok_iff.mp h with
  | unresolved resolved =>
    refine ⟨main, support, held, ⟨mainEmpty, supportEmpty⟩, ?_⟩
    intro s d granted reads
    cases resolved.symm.trans reads.resolved
  | offGrid resolved mode =>
    refine ⟨main, support, held, ⟨mainEmpty, supportEmpty⟩, ?_⟩
    intro s d granted reads
    cases resolved.symm.trans reads.resolved
    exact absurd (reads.mode.trans mode) reads.onGrid
  | unread resolved mode onGrid taken =>
    refine ⟨main, support, held, ⟨mainEmpty, supportEmpty⟩, ?_⟩
    intro s d granted reads
    cases resolved.symm.trans reads.resolved
    rw [mode, ← reads.mode] at taken
    cases taken.symm.trans reads.taken
  | @emitted _ _ s₀ d₀ granted₀ reads₀ delivers₀ =>
    have found := LawfulPlant.units?_of_unitPair (pair_of_resolve reads₀.resolved)
    cases held.symm.trans found
    obtain ⟨-, supportSame, -, -⟩ := setPoints_of_delivers delivers₀
    refine ⟨_, _, LawfulPlant.units?_putPair _ held,
      holds_emit (supportSame.trans supportEmpty), ?_⟩
    intro s d granted reads delivers
    obtain rfl := reads.unique reads₀
    obtain ⟨rfl, rfl⟩ := Prod.mk.inj (delivers.unique delivers₀)
    obtain ⟨-, -, mainId, supportId⟩ := setPoints_of_delivers delivers
    refine ⟨?_, ?_, ?_⟩
    · intro error rejects
      obtain ⟨_, emitted, -⟩ := emit_of_main_rejects granted.2 rejects
      obtain ⟨-, reason, named⟩ := writeSetPoints_of_rejects rejects
      rw [emitted]
      exact ⟨rfl, ⟨reason, by rw [named, mainId]⟩, rfl⟩
    · intro accepts error rejects
      obtain ⟨_, _, emitted, -, -⟩ := emit_of_support_rejects accepts rejects
      obtain ⟨-, reason, named⟩ := writeSetPoints_of_rejects rejects
      rw [emitted, mainId, supportId]
      exact ⟨rfl, reason, by rw [named, supportId]⟩
    · intro mainAccepts supportAccepts
      obtain ⟨_, _, emitted, -, -⟩ := emit_of_accepts mainAccepts supportAccepts
      rw [emitted]
      exact ⟨_, rfl, rfl⟩

end Run

/-- The drained units where the support unit takes active set-points only. -/
def halfWritablePlant : ScriptedPlant :=
  { drainedPlant with
    support := { drainedPlant.support with rejectsReactive := some "read-only" } }

/-- The half-written set-points of both units are withdrawn. -/
theorem set_points_all_or_nothing_half_writable :
    ∃ ran : Ran ScriptedPlant,
      (create .default).run .empty halfWritablePlant { consumption := some 0 }
        SimulationSpec.defaultStart = .ok ran ∧
      ran.outcome =
        .error (.partialEmission "ess0" "ess1" "`ess1` rejected set-point: read-only") ∧
      ran.plant.main.setPoints = {} ∧ ran.plant.support.setPoints = {} := by
  have ends : (create .default).run .empty halfWritablePlant { consumption := some 0 }
      SimulationSpec.defaultStart = .ok _ := rfl
  obtain ⟨main, support, held, holds, -⟩ := set_points_all_or_nothing rfl rfl rfl ends
  cases held
  exact ⟨_, ends, rfl, holds⟩

end Controller

end HybridStorage
