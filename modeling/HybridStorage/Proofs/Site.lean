import HybridStorage.Proofs.Results
import HybridStorage.Proofs.Roster
import HybridStorage.Site.Basic

/-!
# Looking up units

The battery under an identifier after each operation on a site.
-/

namespace HybridStorage.Site

theorem unit?_insertUnit (s : Site) (b : Battery) (id : String) :
    (s.insertUnit b).2.unit? id = if id = b.parameters.id then some b else s.unit? id :=
  s.units.get?_insert b.parameters.id id b

theorem unit?_removeUnit (s : Site) (removed id : String) :
    (s.removeUnit removed).2.unit? id = if id = removed then none else s.unit? id :=
  s.units.get?_erase removed id

theorem unit?_updateUnit (s : Site) (updated id : String) (b : Battery) :
    (s.updateUnit updated b).unit? id =
      (s.unit? id).map fun present => if id = updated then b else present :=
  s.units.get?_replace updated id b

theorem unit?_startCycle (s : Site) (now : Instant) (id : String) :
    (s.startCycle now).unit? id = (s.unit? id).map (·.onCycle now) :=
  s.units.get?_map (·.onCycle now) id

theorem units_readMeter {s metered : Site} {id : String} {load : Watts}
    (h : s.readMeter id load = .ok metered) : metered.units = s.units := by
  unfold readMeter at h
  split at h
  · cases h
    rfl
  · split at h
    · cases h
      rfl
    · obtain ⟨_, _, same⟩ := bind_eq_ok_iff.mp h
      cases same
      rfl

theorem meter_readMeter {s metered : Site} {id : String} {load : Watts} {meter : Meter}
    (h : s.readMeter id load = .ok metered) (found : s.meters.get? id = some meter) :
    ∃ power, metered.meters.get? id = some { meter with power } := by
  have replaced (power : Option Watts) :
      (s.meters.replace id { meter with power }).get? id = some { meter with power } := by
    rw [Roster.get?_replace, found, Option.map_some, if_pos rfl]
  rw [readMeter, found] at h
  dsimp only at h
  split at h
  · cases h
    exact ⟨none, replaced none⟩
  · obtain ⟨power, _, same⟩ := bind_eq_ok_iff.mp h
    cases same
    exact ⟨some power, replaced (some power)⟩

theorem meters_applyPending {s applied : Site} {now : Instant}
    (h : s.applyPending now = .ok applied) : applied.meters = s.meters := by
  obtain ⟨_, _, same⟩ := bind_eq_ok_iff.mp h
  cases same
  rfl

/-- A battery is there after an application exactly if it was there before, and then its own
set-points were applied to it. -/
theorem unit?_applyPending {s applied : Site} {now : Instant}
    (h : s.applyPending now = .ok applied) (id : String) :
    (s.unit? id = none ∧ applied.unit? id = none) ∨
      ∃ b b', s.unit? id = some b ∧ b.applyPending now = .ok b' ∧ applied.unit? id = some b' := by
  obtain ⟨units, changed, same⟩ := bind_eq_ok_iff.mp h
  cases same
  exact Roster.get?_tryMap changed id

theorem require_eq_ok_iff {α : Type} {id : String} {enabled : α → Bool} {found : Option α} {x : α} :
    require id enabled found = .ok x ↔ found = some x ∧ enabled x = true := by
  cases found with
  | none => simp [require]
  | some y =>
    by_cases on : enabled y = true
    · simp only [require, if_pos on, Except.ok.injEq, Option.some.injEq]
      constructor
      · rintro rfl
        exact ⟨rfl, on⟩
      · exact And.left
    · simp only [require, if_neg on, Option.some.injEq]
      constructor
      · intro h
        cases h
      · rintro ⟨rfl, on'⟩
        exact absurd on' on

theorem unitPair_eq_ok_iff {s : Site} {first second : String} {pair : Battery × Battery} :
    s.unitPair first second = .ok pair ↔
      first ≠ second ∧ s.unit? first = some pair.1 ∧ pair.1.parameters.enabled = true ∧
        s.unit? second = some pair.2 ∧ pair.2.parameters.enabled = true := by
  unfold unitPair
  by_cases shared : first = second
  · rw [if_pos shared]
    simp [shared]
  · rw [if_neg shared]
    simp only [bind_eq_ok_iff, unit, require_eq_ok_iff]
    constructor
    · rintro ⟨a, ⟨foundA, onA⟩, b, ⟨foundB, onB⟩, same⟩
      cases same
      exact ⟨shared, foundA, onA, foundB, onB⟩
    · rintro ⟨-, foundA, onA, foundB, onB⟩
      exact ⟨pair.1, ⟨foundA, onA⟩, pair.2, ⟨foundB, onB⟩, rfl⟩

/-- The battery under an identifier after two others, or itself, were put back. -/
theorem unit?_putPair (s : Site) (first second id : String) (pair : Battery × Battery) :
    (Plant.putPair s first second pair : Site).unit? id = (s.unit? id).map fun present =>
      if id = second then pair.2 else if id = first then pair.1 else present := by
  change ((s.updateUnit first pair.1).updateUnit second pair.2).unit? id = _
  rw [unit?_updateUnit, unit?_updateUnit, Option.map_map]
  rfl

end HybridStorage.Site
