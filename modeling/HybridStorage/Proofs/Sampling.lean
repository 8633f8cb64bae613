import HybridStorage.Proofs.Applications
import HybridStorage.Proofs.SetPoints
import HybridStorage.Proofs.Timeline
import Mathlib.Data.List.Infix

/-!
# Sampling

A battery may be applied as often as one likes while its power stays the same. What the next
application finds depends only on the time that the power has been in force, also where the battery
runs empty or full in between: what is taken off in several steps of one sign and cut off at empty
and full each time is what one step takes off.
-/

namespace HybridStorage

/-! ### Whole milliseconds -/

/-- The later instant comes whole milliseconds after the earlier one, and neither lies within a leap
second. -/
structure Instant.Spaced (earlier later : Instant) : Prop where
  earlier_outside : earlier.nano < 1000000000
  later_outside : later.nano < 1000000000
  le : earlier ≤ later
  whole : ∃ n, later.since earlier = Duration.ofMilliseconds n

namespace Instant

def millisecondsTo (earlier later : Instant) : Int := Duration.milliseconds (later.since earlier)

theorem count_le {a b : Instant} (outside : a.nano < 1000000000) (le : a ≤ b) :
    a.count ≤ b.count := by
  have ordered : a.order ≤ b.order := le
  unfold order at ordered
  unfold count Duration.second
  omega

namespace Spaced

variable {a b c : Instant}

theorem count_eq (spaced : Spaced a b) : b.count = a.count + 1000000 * a.millisecondsTo b := by
  obtain ⟨outside, outside', -, n, whole⟩ := spaced
  have difference : n * 1000000 = b.count - a.count :=
    whole.symm.trans (since_eq outside outside')
  have exact : Duration.milliseconds (Duration.ofMilliseconds n) = n :=
    Int.mul_tdiv_cancel n (by decide)
  rw [Instant.millisecondsTo, whole, exact]
  omega

theorem millisecondsTo_nonneg (spaced : Spaced a b) : 0 ≤ a.millisecondsTo b := by
  have le := count_le spaced.earlier_outside spaced.le
  have count := spaced.count_eq
  omega

theorem trans (first : Spaced a b) (second : Spaced b c) : Spaced a c where
  earlier_outside := first.earlier_outside
  later_outside := second.later_outside
  le := Int.le_trans first.le second.le
  whole := by
    have before := first.count_eq
    have after := second.count_eq
    have passed : c.count - a.count = (a.millisecondsTo b + b.millisecondsTo c) * 1000000 := by
      omega
    exact ⟨_, (since_eq first.earlier_outside second.later_outside).trans passed⟩

theorem millisecondsTo_add (first : Spaced a b) (second : Spaced b c) :
    a.millisecondsTo c = a.millisecondsTo b + b.millisecondsTo c := by
  have before := first.count_eq
  have after := second.count_eq
  have whole := (first.trans second).count_eq
  omega

theorem to_last {times : List Instant} (inOrder : List.IsChain Spaced (a :: times ++ [c])) :
    Spaced a c := by
  induction times generalizing a with
  | nil => exact (List.isChain_cons_cons.mp inOrder).1
  | cons b rest ih =>
    obtain ⟨first, others⟩ := List.isChain_cons_cons.mp inOrder
    exact first.trans (ih others)

end Spaced

end Instant

namespace Battery

open Instant

variable {b b' between : Battery} {start now later finish : Instant}

/-- When the operation applies the battery, if it does. -/
def Operation.appliedAt? : Operation → Option Instant
  | applyPending now => some now
  | applyPower now _ _ => some now
  | _ => none

/-! ### The state that an application finds -/

def Parameters.held (p : Parameters) (energy : Int) : Int := min (max energy 0) p.fullEnergy

def delivered (b : Battery) (start finish : Instant) : Int :=
  b.active.toInt * start.millisecondsTo finish

/-- Energy and state of charge at an instant if the power has been in force since another one. -/
def found (b : Battery) (start finish : Instant) : Energy × Percent :=
  let energy := b.parameters.held (b.energy - b.delivered start finish)
  (energy, if b.parameters.fullEnergy = 0 then b.charge
    else percentage energy b.parameters.fullEnergy)

/-- The integration from one instant to another fits 64 bits. -/
def HasRoom (b : Battery) (start finish : Instant) : Prop :=
  b.parameters.fullEnergy ≠ 0 → Energy.Fits (b.delivered start finish) ∧
    Energy.Fits (b.energy - b.delivered start finish)

theorem held_of_empty {p : Parameters} (none : p.fullEnergy = 0) (energy : Int) :
    p.held energy = 0 := by
  unfold Parameters.held
  omega

/-- Two amounts of one sign can be taken off one after the other. -/
theorem held_held {p : Parameters} {energy first second : Int} (nonneg : 0 ≤ energy)
    (le_full : energy ≤ p.fullEnergy)
    (alike : (0 ≤ first ∧ 0 ≤ second) ∨ (first ≤ 0 ∧ second ≤ 0)) :
    p.held (p.held (energy - first) - second) = p.held (energy - (first + second)) := by
  unfold Parameters.held
  omega

theorem fits_apart {p : Parameters} {energy first second : Int} (nonneg : 0 ≤ energy)
    (le_full : energy ≤ p.fullEnergy)
    (alike : (0 ≤ first ∧ 0 ≤ second) ∨ (first ≤ 0 ∧ second ≤ 0))
    (fits : Energy.Fits (first + second)) (fits' : Energy.Fits (energy - (first + second))) :
    (Energy.Fits first ∧ Energy.Fits (energy - first)) ∧ Energy.Fits second ∧
      Energy.Fits (p.held (energy - first) - second) := by
  have full := fullEnergy_le p
  unfold Parameters.held
  unfold Energy.Fits at *
  omega

theorem delivered_alike (b : Battery) {n m : Int} (first : 0 ≤ n) (second : 0 ≤ m) :
    (0 ≤ b.active.toInt * n ∧ 0 ≤ b.active.toInt * m) ∨
      (b.active.toInt * n ≤ 0 ∧ b.active.toInt * m ≤ 0) := by
  rcases Int.le_total 0 b.active.toInt with discharges | charges
  · exact .inl ⟨Int.mul_nonneg discharges first, Int.mul_nonneg discharges second⟩
  · exact .inr ⟨Int.mul_nonpos_of_nonpos_of_nonneg charges first,
      Int.mul_nonpos_of_nonpos_of_nonneg charges second⟩

theorem elapsed_eq {last : Instant} (applied : b.lastApplied = some last)
    (spaced : Spaced last now) : b.elapsed now = last.millisecondsTo now := by
  unfold elapsed
  rw [applied]
  exact Int.max_eq_left spaced.millisecondsTo_nonneg

theorem integrate_eq_ok_iff {last : Instant} {state : Energy × Percent}
    (applied : b.lastApplied = some last) (stores : b.parameters.fullEnergy ≠ 0) :
    b.integrate now = .ok state ↔ Energy.Fits (b.active.toInt * b.elapsed now) ∧
      Energy.Fits (b.energy - b.active.toInt * b.elapsed now) ∧
      state = (b.parameters.held (b.energy - b.active.toInt * b.elapsed now),
        percentage (b.parameters.held (b.energy - b.active.toInt * b.elapsed now))
          b.parameters.fullEnergy) := by
  unfold integrate elapsed
  rw [applied, energyCapacity_eq]
  simp only [bind_eq_ok_iff, Except.ok.injEq, exists_eq_left']
  rw [if_neg stores]
  simp only [bind_eq_ok_iff, Energy.exact_eq_ok_iff]
  constructor
  · rintro ⟨_, ⟨rfl, fits⟩, _, ⟨rfl, fits'⟩, same⟩
    cases same
    exact ⟨fits, fits', rfl⟩
  · rintro ⟨fits, fits', rfl⟩
    exact ⟨_, ⟨rfl, fits⟩, _, ⟨rfl, fits'⟩, rfl⟩

theorem integrate_of_empty {last : Instant} (applied : b.lastApplied = some last)
    (stores : b.parameters.fullEnergy = 0) : b.integrate now = .ok (b.energy, b.charge) := by
  unfold integrate
  rw [applied, energyCapacity_eq]
  exact if_pos stores

theorem hasRoom_of_integrate {state : Energy × Percent} (applied : b.lastApplied = some start)
    (spaced : Spaced start finish) (h : b.integrate finish = .ok state) :
    b.HasRoom start finish := by
  intro stores
  obtain ⟨fits, fits', -⟩ := (integrate_eq_ok_iff applied stores).mp h
  rw [elapsed_eq applied spaced] at fits fits'
  exact ⟨fits, fits'⟩

/-- A shorter time needs no more room than a longer one. -/
theorem HasRoom.earlier (room : b.HasRoom start finish) (bounded : b.Bounded)
    (first : Spaced start later) (second : Spaced later finish) : b.HasRoom start later := by
  intro stores
  obtain ⟨fits, fits'⟩ := room stores
  have alike := b.delivered_alike first.millisecondsTo_nonneg second.millisecondsTo_nonneg
  rw [delivered, first.millisecondsTo_add second, Int.mul_add] at fits fits'
  exact (fits_apart bounded.nonneg bounded.le_full alike fits fits').1

/-! ### Applications that keep the power -/

/-- The battery `between` comes from `b`, which was applied at `start`, by applications up to `now`
that kept its power in force. -/
structure Sampled (b : Battery) (start now : Instant) (between : Battery) : Prop where
  spaced : Spaced start now
  parameters : between.parameters = b.parameters
  active : between.active = b.active
  lastApplied : between.lastApplied = some now
  energy : between.energy = b.parameters.held (b.energy - b.delivered start now)
  charge : b.parameters.fullEnergy = 0 → between.charge = b.charge

theorem Bounded.sampled (bounded : b.Bounded) (applied : b.lastApplied = some start)
    (outside : start.nano < 1000000000) : Sampled b start start b := by
  have none : start.since start = 0 := (since_eq outside outside).trans (Int.sub_self _)
  have nothing : b.delivered start start = 0 := by
    rw [delivered, Instant.millisecondsTo, none]
    exact Int.mul_zero _
  have nonneg := bounded.nonneg
  have le_full := bounded.le_full
  refine ⟨⟨outside, outside, Int.le_refl _, 0, none⟩, rfl, rfl, applied, ?_, fun _ => rfl⟩
  rw [nothing, Int.sub_zero, Parameters.held, Int.max_eq_left nonneg, Int.min_eq_left le_full]

/-- However often it was applied in between, a battery finds what it would have found otherwise. -/
theorem Sampled.integrate_eq (sampled : Sampled b start now between) (bounded : b.Bounded)
    (spaced : Spaced now later) (room : b.HasRoom start later) :
    between.integrate later = .ok (b.found start later) := by
  obtain ⟨first, parameters, active, lastApplied, energy, charge⟩ := sampled
  have nonneg := bounded.nonneg
  have le_full := bounded.le_full
  have alike := b.delivered_alike first.millisecondsTo_nonneg spaced.millisecondsTo_nonneg
  have total : b.delivered start later =
      b.active.toInt * start.millisecondsTo now + b.active.toInt * now.millisecondsTo later := by
    rw [delivered, first.millisecondsTo_add spaced, Int.mul_add]
  by_cases stores : b.parameters.fullEnergy = 0
  · -- Without capacity there is no energy to hold, and the state of charge stays as it was.
    have none : b.parameters.held (b.energy - b.delivered start now) =
        b.parameters.held (b.energy - b.delivered start later) := by
      rw [held_of_empty stores, held_of_empty stores]
    rw [integrate_of_empty lastApplied (by rw [parameters, stores]), energy, charge stores, none,
      found, if_pos stores]
  · have elapsed := elapsed_eq lastApplied spaced
    obtain ⟨fits, fits'⟩ := room stores
    have held := held_held nonneg le_full alike
    rw [total] at fits fits'
    rw [integrate_eq_ok_iff lastApplied (by rwa [parameters]), elapsed, parameters, active, energy,
      found, if_neg stores, total, delivered, held]
    obtain ⟨-, step, rest⟩ := fits_apart nonneg le_full alike fits fits'
    exact ⟨step, rest, rfl⟩

/-! ### Histories -/

theorem perform_of_waiting {operation : Operation} (waits : operation.appliedAt? = none)
    (b : Battery) : ∃ answer b', b.perform operation = .ok (answer, b') ∧
      b'.parameters = b.parameters ∧ b'.energy = b.energy ∧ b'.charge = b.charge ∧
      b'.active = b.active ∧ b'.lastApplied = b.lastApplied := by
  cases operation with
  | grant now target =>
    refine ⟨some (b.grant now target).1, (b.grant now target).2, rfl, ?_⟩
    rw [granted_eq]
    exact ⟨rfl, rfl, rfl, rfl, rfl⟩
  | applyPending now => cases waits
  | applyPower now active reactive => cases waits
  | _ => exact ⟨_, _, rfl, rfl, rfl, rfl, rfl, rfl⟩

theorem perform_of_applied {operation : Operation} {state : Energy × Percent}
    (applied : operation.appliedAt? = some now) (integrated : b.integrate now = .ok state) :
    ∃ answer b', b.perform operation = .ok (answer, b') ∧ b'.parameters = b.parameters ∧
      b'.energy = state.1 ∧ b'.charge = state.2 ∧ b'.lastApplied = some now := by
  cases operation with
  | applyPending =>
    cases applied
    have performed := applyPending_eq_ok_iff.mpr ⟨state, integrated, rfl⟩
    exact ⟨_, _, bind_eq_ok_iff.mpr ⟨_, performed, rfl⟩, rfl, rfl, rfl, rfl⟩
  | applyPower _ active reactive =>
    cases applied
    have performed : b.applyPower now active reactive = .ok _ :=
      bind_eq_ok_iff.mpr ⟨state, integrated, rfl⟩
    exact ⟨_, _, bind_eq_ok_iff.mpr ⟨_, performed, rfl⟩, rfl, rfl, rfl, rfl⟩
  | _ => cases applied

theorem Sampled.performAll (bounded : b.Bounded) (room : b.HasRoom start finish)
    {samples : List Operation} (sampled : Sampled b start now between)
    (inOrder : List.IsChain Spaced (now :: samples.filterMap Operation.appliedAt? ++ [finish]))
    (kept : ∀ earlier next, earlier <+: samples → between.performAll earlier = .ok next →
      next.active = b.active) :
    ∃ last next, between.performAll samples = .ok next ∧ Sampled b start last next ∧
      Spaced last finish := by
  induction samples generalizing between now with
  | nil => exact ⟨now, between, rfl, sampled, Spaced.to_last inOrder⟩
  | cons operation rest ih =>
    -- After the first operation the battery is still sampled, and the rest keeps its power too.
    have onward {answer : Option Watts} {next : Battery} {time : Instant}
        (performed : between.perform operation = .ok (answer, next))
        (still : Sampled b start time next)
        (others : List.IsChain Spaced (time :: rest.filterMap Operation.appliedAt? ++ [finish])) :
        ∃ last final, between.performAll (operation :: rest) = .ok final ∧
          Sampled b start last final ∧ Spaced last finish := by
      obtain ⟨last, final, ended, sampled', spaced⟩ := ih still others (by
        intro earlier next' before reached
        apply kept (operation :: earlier) next' (List.cons_prefix_cons.mpr ⟨rfl, before⟩)
        exact performAll_cons_eq_ok_iff.mpr ⟨answer, next, performed, reached⟩)
      exact ⟨last, final, performAll_cons_eq_ok_iff.mpr ⟨answer, next, performed, ended⟩,
        sampled', spaced⟩
    cases applied : operation.appliedAt? with
    | none =>
      obtain ⟨answer, next, performed, parameters, energy, charge, active, lastApplied⟩ :=
        perform_of_waiting applied between
      rw [List.filterMap_cons_none applied] at inOrder
      refine onward performed ⟨sampled.spaced, ?_, ?_, ?_, ?_, ?_⟩ inOrder
      · rw [parameters, sampled.parameters]
      · rw [active, sampled.active]
      · rw [lastApplied, sampled.lastApplied]
      · rw [energy, sampled.energy]
      · rw [charge]
        exact sampled.charge
    | some later =>
      rw [List.filterMap_cons_some applied] at inOrder
      obtain ⟨spaced, others⟩ := List.isChain_cons_cons.mp inOrder
      have reaches := sampled.spaced.trans spaced
      have integrated := sampled.integrate_eq bounded spaced
        (room.earlier bounded reaches (Spaced.to_last others))
      obtain ⟨answer, next, performed, parameters, energy, charge, lastApplied⟩ :=
        perform_of_applied applied integrated
      refine onward performed ⟨reaches, ?_, ?_, lastApplied, energy, ?_⟩ others
      · rw [parameters, sampled.parameters]
      · apply kept [operation] next ⟨rest, rfl⟩
        exact performAll_cons_eq_ok_iff.mpr ⟨answer, next, performed, rfl⟩
      · intro none
        rw [charge, found, if_pos none]

/-- Whatever is done to a battery after an application, and however often it is applied again at
whole milliseconds, as long as its power stays in force the next application leaves it in the same
state as if nothing had been done. Where the next application fits, so do those before it. -/
theorem applied_alike_when_sampled {p : Parameters} {new : Battery}
    {history samples : List Operation} {active reactive : Watts} (created : create p = .ok new)
    (reached : new.performAll history = .ok b) (applied : b.lastApplied = some start)
    (inOrder : List.IsChain Spaced (start :: samples.filterMap Operation.appliedAt? ++ [finish]))
    (kept : ∀ earlier between, earlier <+: samples → b.performAll earlier = .ok between →
      between.active = b.active)
    (direct : b.applyPower finish active reactive = .ok b') :
    ∃ sampled sampled', b.performAll samples = .ok sampled ∧
      sampled.applyPower finish active reactive = .ok sampled' ∧
      sampled'.energy = b'.energy ∧ sampled'.charge = b'.charge ∧
      sampled'.active = b'.active ∧ sampled'.reactive = b'.reactive ∧
      sampled'.lastApplied = b'.lastApplied := by
  have bounded : b.Bounded := of_performAll Bounded.step reached (bounded_of_create created)
  have whole := Spaced.to_last inOrder
  have itself := bounded.sampled applied whole.earlier_outside
  obtain ⟨state, integrated, same⟩ := bind_eq_ok_iff.mp direct
  cases same
  have room := hasRoom_of_integrate applied whole integrated
  -- The direct application is the case of no samples.
  cases (itself.integrate_eq bounded whole room).symm.trans integrated
  obtain ⟨_, sampled, performed, again, spaced⟩ := itself.performAll bounded room inOrder kept
  have found := again.integrate_eq bounded spaced room
  exact ⟨sampled, _, performed, bind_eq_ok_iff.mpr ⟨_, found, rfl⟩, rfl, rfl, rfl, rfl, rfl⟩

/-- A battery that discharges with 20 kW is applied again with what was written to it, and later
once more. -/
def discharging (first second : Instant) : List Operation :=
  [.startCycle first, .setActive 20000, .setReactive 300, .applyPending first,
    .applyPower second 20000 0]

/-- A battery that discharges from nine o'clock on runs empty before two, whether it is applied
again at ten and eleven or not. -/
theorem applied_alike_when_sampled_empty : ∃ new b b' sampled sampled',
    create UnitSpec.default.parameters = .ok new ∧
      new.performAll [.applyPower (hour 9) 20000 100] = .ok b ∧
      b.applyPower (hour 14) 5000 (-70) = .ok b' ∧
      b.performAll (discharging (hour 10) (hour 11)) = .ok sampled ∧ sampled.energy < b.energy ∧
      sampled.applyPower (hour 14) 5000 (-70) = .ok sampled' ∧
      sampled'.energy = 0 ∧ sampled'.charge = 0 ∧ sampled'.active = 0 ∧
      sampled'.reactive = -70 ∧ sampled'.lastApplied = some (hour 14) := by
  have trace : (do
      let new ← (create UnitSpec.default.parameters).toOption
      let b ← (new.performAll [.applyPower (hour 9) 20000 100]).toOption
      let b' ← (b.applyPower (hour 14) 5000 (-70)).toOption
      let sampled ← (b.performAll (discharging (hour 10) (hour 11))).toOption
      some (decide (b.lastApplied = some (hour 9) ∧ b'.energy = 0 ∧ b'.charge = 0 ∧
        b'.active = 0 ∧ b'.reactive = -70 ∧ b'.lastApplied = some (hour 14) ∧
        sampled.energy < b.energy ∧ (discharging (hour 10) (hour 11)).inits.all fun earlier =>
          (b.performAll earlier).toOption.map (·.active) = some b.active))) = some true := by
    decide +kernel
  simp only [Option.bind_eq_bind, Option.bind_eq_some_iff] at trace
  obtain ⟨new, created, b, performed, b', direct, sampled, resampled, facts⟩ := trace
  obtain ⟨applied, energy, charge, active, reactive, lastApplied, drained, steady⟩ :=
    of_decide_eq_true (Option.some.inj facts)
  have inOrder : List.IsChain Spaced
      (hour 9 :: (discharging (hour 10) (hour 11)).filterMap Operation.appliedAt? ++ [hour 14]) :=
    .cons_cons ⟨by decide, by decide, by decide, 3600000, by decide⟩
      (.cons_cons ⟨by decide, by decide, by decide, 3600000, by decide⟩
        (.cons_cons ⟨by decide, by decide, by decide, 3 * 3600000, by decide⟩ (.singleton _)))
  have kept : ∀ earlier between, earlier <+: discharging (hour 10) (hour 11) →
      b.performAll earlier = .ok between → between.active = b.active := by
    intro earlier between before reached
    have still := List.all_eq_true.mp steady earlier ((List.mem_inits earlier _).mpr before)
    rw [reached] at still
    exact Option.some.inj (of_decide_eq_true still)
  obtain ⟨_, sampled', again, finished, energy', charge', active', reactive', lastApplied'⟩ :=
    applied_alike_when_sampled (ok_of_toOption created) (ok_of_toOption performed) applied inOrder
      kept (ok_of_toOption direct)
  cases (ok_of_toOption resampled).symm.trans again
  exact ⟨new, b, b', sampled, sampled', ok_of_toOption created, ok_of_toOption performed,
    ok_of_toOption direct, ok_of_toOption resampled, drained, finished, energy'.trans energy,
    charge'.trans charge, active'.trans active, reactive'.trans reactive,
    lastApplied'.trans lastApplied⟩

end Battery

end HybridStorage
