import HybridStorage.Proofs.ChargeBounds
import HybridStorage.Proofs.Frame
import HybridStorage.Proofs.Readings

/-!
# Applications that fit

An application integrates the energy that its battery delivered since the one before. That fits
64 bits where the battery can be drained and filled at its full powers for as long.
-/

namespace HybridStorage

namespace Battery

variable {b : Battery} {now : Instant}

/-- The milliseconds that an application at `now` integrates. -/
def elapsed (b : Battery) (now : Instant) : Int :=
  match b.lastApplied with
  | none => 0
  | some last => max (Duration.milliseconds (now.since last)) 0

theorem elapsed_nonneg (b : Battery) (now : Instant) : 0 ≤ b.elapsed now := by
  unfold elapsed
  split
  · exact Int.le_refl 0
  · exact Int.le_max_right _ _

theorem integrate_ok_of_fits (delivered : Energy.Fits (b.active.toInt * b.elapsed now))
    (left : Energy.Fits (b.energy - b.active.toInt * b.elapsed now)) :
    ∃ state, b.integrate now = .ok state := by
  have product := Energy.exact_ok delivered
  have difference := Energy.exact_ok left
  unfold elapsed at product difference
  unfold integrate
  split
  · exact ⟨_, rfl⟩
  · next last applied =>
    rw [applied] at product difference
    rw [energyCapacity_eq]
    by_cases none : b.parameters.fullEnergy = 0
    · exact ⟨(b.energy, b.charge), if_pos none⟩
    · exact ⟨_, (if_neg none).trans (bind_eq_ok_iff.mpr ⟨_, product,
        bind_eq_ok_iff.mpr ⟨_, difference, rfl⟩⟩)⟩

theorem integrate_ok (bounded : b.Bounded) {charge discharge most : Int}
    (above : -charge ≤ b.active.toInt) (below : b.active.toInt ≤ discharge)
    (chargeNonneg : 0 ≤ charge) (dischargeNonneg : 0 ≤ discharge) (elapsed : b.elapsed now ≤ most)
    (drained : discharge * most ≤ 9223372036854775807)
    (filled : charge * most + b.parameters.fullEnergy ≤ 9223372036854775807) :
    ∃ state, b.integrate now = .ok state := by
  have forward := b.elapsed_nonneg now
  have full : b.parameters.fullEnergy ≥ b.energy := bounded.le_full
  have energy := bounded.nonneg
  have high := calc
    b.active.toInt * b.elapsed now ≤ discharge * b.elapsed now :=
      Int.mul_le_mul_of_nonneg_right below forward
    _ ≤ discharge * most := Int.mul_le_mul_of_nonneg_left elapsed dischargeNonneg
  have low := calc
    -(charge * most) ≤ -(charge * b.elapsed now) :=
      Int.neg_le_neg (Int.mul_le_mul_of_nonneg_left elapsed chargeNonneg)
    _ = -charge * b.elapsed now := (Int.neg_mul _ _).symm
    _ ≤ b.active.toInt * b.elapsed now := Int.mul_le_mul_of_nonneg_right above forward
  apply integrate_ok_of_fits
  · unfold Energy.Fits
    omega
  · unfold Energy.Fits
    omega

theorem integrate_answer (b : Battery) (now : Instant) (request : Option Watts) :
    ((b.onCycle now).answer now request).integrate now = b.integrate now := by
  cases request with
  | none => rfl
  | some request =>
    rw [answer_some]
    rfl

end Battery

namespace Roster

variable {α ε : Type} {f : α → Except ε α}

theorem mapEntries_ok {entries : List (String × α)} (nodup : (entries.map Prod.fst).Nodup)
    (each : ∀ id x, entries.lookup id = some x → ∃ y, f x = .ok y) :
    ∃ changed, mapEntries f entries = .ok changed := by
  induction entries with
  | nil => exact ⟨[], rfl⟩
  | cons entry rest ih =>
    obtain ⟨key, x⟩ := entry
    obtain ⟨fresh, nodup⟩ := List.nodup_cons.mp nodup
    obtain ⟨y, changed⟩ := each key x (by rw [lookup_cons_eq, if_pos rfl])
    obtain ⟨others, changedRest⟩ := ih nodup (by
      intro id z found
      apply each id z
      have notKey : id ≠ key := by
        rintro rfl
        cases (lookup_of_absent fresh).symm.trans found
      rw [lookup_cons_eq, if_neg notKey, found])
    exact ⟨(key, y) :: others, bind_eq_ok_iff.mpr ⟨y, changed,
      bind_eq_ok_iff.mpr ⟨others, changedRest, rfl⟩⟩⟩

theorem tryMap_ok {r : Roster α} (each : ∀ id x, r.get? id = some x → ∃ y, f x = .ok y) :
    ∃ changed, r.tryMap f = .ok changed := by
  obtain ⟨entries, changed⟩ := mapEntries_ok r.nodup each
  unfold tryMap
  split
  · next failed => cases failed.symm.trans changed
  · exact ⟨_, rfl⟩

end Roster

theorem Site.applyPending_ok {s : Site} {now : Instant}
    (each : ∀ id b, s.unit? id = some b → ∃ state, b.integrate now = .ok state) :
    ∃ applied, s.applyPending now = .ok applied := by
  have applied : ∀ id b, s.units.get? id = some b → ∃ b', Battery.applyPending b now = .ok b' := by
    intro id b found
    obtain ⟨state, integrated⟩ := each id b found
    exact ⟨_, Battery.applyPending_eq_ok_iff.mpr ⟨state, integrated, rfl⟩⟩
  obtain ⟨units, changed⟩ := Roster.tryMap_ok applied
  exact ⟨_, bind_eq_ok_iff.mpr ⟨units, changed, rfl⟩⟩

end HybridStorage
