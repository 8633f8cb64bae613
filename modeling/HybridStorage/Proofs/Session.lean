import HybridStorage.Proofs.Cycle
import HybridStorage.Scenario.Build

/-!
# Sessions

A session starts with the engine of a valid scenario. The engine serves cycle after cycle, whatever
load and production are, and between two cycles new batteries are inserted and batteries are
removed. What holds of new batteries and is kept by every cycle of a battery holds of all batteries
of a session, and so they are at rest between any two cycles.
-/

namespace HybridStorage

namespace Scenario

theorem unit?_of_addUnits {site site' : Site} {units : List UnitSpec}
    (h : addUnits site units = .ok site') {id : String} {b : Battery}
    (found : site'.unit? id = some b) :
    site.unit? id = some b ∨ ∃ u ∈ units, Battery.create u.parameters = .ok b := by
  induction units generalizing site with
  | nil =>
    cases h
    exact .inl found
  | cons u rest ih =>
    obtain ⟨new, created, h⟩ := bind_eq_ok_iff.mp h
    rcases ih h with earlier | ⟨u', member, created'⟩
    · rw [Site.unit?_insertUnit] at earlier
      split at earlier
      · cases earlier
        exact .inr ⟨u, List.mem_cons_self, created⟩
      · exact .inl earlier
    · exact .inr ⟨u', List.mem_cons_of_mem u member, created'⟩

theorem build_eq_ok_iff {s : Scenario} {e : Engine} :
    s.build = .ok (.ok e) ↔ s.violations = [] ∧ s.engine = .ok e := by
  unfold build
  split
  · next none =>
    rw [map_eq_ok_iff]
    constructor
    · rintro ⟨_, made, same⟩
      cases same
      exact ⟨none, made⟩
    · rintro ⟨-, made⟩
      exact ⟨e, made, rfl⟩
  · next some =>
    constructor
    · intro h
      cases h
    · rintro ⟨none, -⟩
      exact absurd none some

theorem unit?_of_build {s : Scenario} {e : Engine} (h : s.build = .ok (.ok e)) {id : String}
    {b : Battery} (found : e.site.unit? id = some b) :
    ∃ u ∈ s.units, Battery.create u.parameters = .ok b := by
  obtain ⟨-, made⟩ := build_eq_ok_iff.mp h
  simp only [engine, site, bind_eq_ok_iff] at made
  obtain ⟨_, ⟨site, added, sameSite⟩, _, _, same⟩ := made
  cases sameSite
  cases same
  rcases unit?_of_addUnits added found with earlier | made
  · cases earlier
  · exact made

end Scenario

namespace Engine

/-- The next cycle for given answers of the profiles, or `none` once the clock has run out. -/
def serveNext (e : Engine) (disk : Disk) (s : Sample) : Checked (Option Cycled) := do
  match ← e.clock.tick with
  | none => pure none
  | some ((index, now), clock) =>
    let cycled ← { e with clock }.serve disk index now s
    pure (some cycled)

/-- The cycles of a session so far, the last one first, and the engine after them. Only batteries
with `insertable` parameters are inserted. -/
inductive Session (s : Scenario) (insertable : Battery.Parameters → Prop) :
    List Cycled → Engine → Prop where
  | built {e : Engine} (build : s.build = .ok (.ok e)) : Session s insertable [] e
  | cycled {history : List Cycled} {e : Engine} {disk : Disk} {sample : Sample} {c : Cycled}
      (before : Session s insertable history e) (serves : e.serveNext disk sample = .ok (some c)) :
      Session s insertable (c :: history) c.engine
  | inserted {history : List Cycled} {e : Engine} {p : Battery.Parameters} {b : Battery}
      (before : Session s insertable history e) (allowed : insertable p)
      (created : Battery.create p = .ok b) :
      Session s insertable history { e with site := (e.site.insertUnit b).2 }
  | removed {history : List Cycled} {e : Engine} (before : Session s insertable history e)
      (id : String) : Session s insertable history { e with site := (e.site.removeUnit id).2 }

/-- The next cycle without load and with a given production, if there is one. -/
def serveProduction (e : Engine) (production : Watts) : Option Cycled :=
  (e.serveNext .empty ⟨0, production, e.load, e.production⟩).toOption.join

theorem serveNext_of_serveProduction {e : Engine} {production : Watts} {c : Cycled}
    (h : e.serveProduction production = some c) :
    e.serveNext .empty ⟨0, production, e.load, e.production⟩ = .ok (some c) :=
  ok_of_toOption (Option.join_eq_some_iff.mp h)

variable {s : Scenario} {insertable : Battery.Parameters → Prop} {history : List Cycled}
  {e : Engine} {disk : Disk} {sample : Sample} {c : Cycled}

theorem serveNext_eq_ok_some_iff : e.serveNext disk sample = .ok (some c) ↔
    ∃ index now clock, e.clock.tick = .ok (some ((index, now), clock)) ∧
      { e with clock }.serve disk index now sample = .ok c := by
  rw [serveNext, bind_eq_ok_iff]
  constructor
  · rintro ⟨_ | ⟨⟨index, now⟩, clock⟩, ticked, h⟩
    · cases h
    · obtain ⟨cycled, served, same⟩ := bind_eq_ok_iff.mp h
      cases same
      exact ⟨index, now, clock, ticked, served⟩
  · rintro ⟨index, now, clock, ticked, served⟩
    exact ⟨_, ticked, bind_eq_ok_iff.mpr ⟨c, served, rfl⟩⟩

theorem serveNext_of_step {record : Record} {e' : Engine}
    (h : e.step disk = .ok (some (record, e'))) :
    ∃ sample c, e.serveNext disk sample = .ok (some c) ∧ c.record = record ∧ c.engine = e' := by
  rw [step, bind_eq_ok_iff] at h
  obtain ⟨_ | ⟨⟨index, now⟩, clock⟩, ticked, h⟩ := h
  · cases h
  · simp only [cycle, bind_eq_ok_iff] at h
    obtain ⟨_, ⟨c, served, same⟩, h⟩ := h
    cases same
    cases h
    exact ⟨_, c, serveNext_eq_ok_some_iff.mpr ⟨index, now, clock, ticked, served⟩, rfl, rfl⟩

/-- The steps of an engine with its own profiles continue a session. -/
theorem Session.steps {n : Nat} {records : List Record} {e' : Engine}
    (session : Session s insertable history e) (h : e.steps disk n = .ok (records, e')) :
    ∃ later, Session s insertable (later ++ history) e' ∧
      (later.map Cycled.record).reverse = records := by
  induction n generalizing e history records with
  | zero =>
    cases h
    exact ⟨[], session, rfl⟩
  | succ n ih =>
    rw [Engine.steps, bind_eq_ok_iff] at h
    obtain ⟨_ | ⟨record, between⟩, stepped, h⟩ := h
    · cases h
      exact ⟨[], session, rfl⟩
    · obtain ⟨⟨rest, last⟩, others, same⟩ := bind_eq_ok_iff.mp h
      cases same
      obtain ⟨sample, c, serves, rfl, rfl⟩ := serveNext_of_step stepped
      obtain ⟨later, continued, told⟩ := ih (session.cycled serves) others
      refine ⟨later ++ [c], ?_, ?_⟩
      · rw [List.append_assoc]
        exact continued
      · rw [List.map_append, List.reverse_append, told]
        rfl

/-- What holds of new batteries and is kept by their cycles holds of all batteries of a session. -/
theorem Session.forall_units {P : Battery → Prop} (session : Session s insertable history e)
    (created : ∀ p b, (insertable p ∨ ∃ u ∈ s.units, u.parameters = p) →
      Battery.create p = .ok b → P b)
    (served : ∀ b b' now request, P b → b.serve now request = .ok b' → P b')
    {id : String} {b : Battery} (found : e.site.unit? id = some b) : P b := by
  induction session generalizing b with
  | built build =>
    obtain ⟨u, member, made⟩ := Scenario.unit?_of_build build found
    exact created u.parameters b (.inr ⟨u, member, rfl⟩) made
  | cycled before serves ih =>
    obtain ⟨_, now, _, _, serve⟩ := serveNext_eq_ok_some_iff.mp serves
    rcases unit?_of_serve serve id with ⟨-, absent⟩ | ⟨before, after, present, turn, left⟩
    · cases absent.symm.trans found
    · cases left.symm.trans found
      exact served before b now _ (ih present) turn
  | @inserted _ _ p new before allowed made ih =>
    rw [Site.unit?_insertUnit] at found
    split at found
    · cases found
      exact created p new (.inl allowed) made
    · exact ih found
  | removed before removed ih =>
    rw [Site.unit?_removeUnit] at found
    split at found
    · cases found
    · exact ih found

theorem Session.valid (session : Session s insertable history e) : s.violations = [] := by
  induction session with
  | built build => exact (Scenario.build_eq_ok_iff.mp build).1
  | cycled _ _ ih => exact ih
  | inserted _ _ _ ih => exact ih
  | removed _ _ ih => exact ih

theorem Session.rested (session : Session s insertable history e) {id : String} {b : Battery}
    (found : e.site.unit? id = some b) : b.Rested :=
  session.forall_units (fun _ _ _ => Battery.rested_of_create)
    (fun _ _ _ _ => Battery.rested_of_serve) found

/-- No battery delivers power that a cycle did not ask of it. -/
theorem Session.active_of_unasked (session : Session s insertable history e)
    (serves : e.serveNext disk sample = .ok (some c)) {id : String} {b : Battery}
    (found : c.engine.site.unit? id = some b)
    (unasked : e.controller.settings.asked c.outcome id = none) : b.active = 0 := by
  obtain ⟨_, now, _, _, serve⟩ := serveNext_eq_ok_some_iff.mp serves
  rcases unit?_of_serve serve id with ⟨-, absent⟩ | ⟨before, after, present, turn, left⟩
  · cases absent.symm.trans found
  · cases left.symm.trans found
    change before.serve now (e.controller.settings.asked c.outcome id) = .ok b at turn
    rw [unasked] at turn
    obtain ⟨-, -, active⟩ := Battery.active_of_serve (session.rested present).pending turn
    exact active.trans (Battery.coerce_zero _)

/-- Between two cycles a battery is new or as the last cycle left it. -/
theorem Session.new_or_left (session : Session s insertable history e) {id : String} {b : Battery}
    (found : e.site.unit? id = some b) :
    Battery.create b.parameters = .ok b ∨
      ∃ last ∈ history.head?, last.engine.site.unit? id = some b := by
  induction session generalizing b with
  | built build =>
    obtain ⟨u, -, made⟩ := Scenario.unit?_of_build build found
    rw [Battery.parameters_of_create made]
    exact .inl made
  | @cycled _ _ _ _ c before serves => exact .inr ⟨c, rfl, found⟩
  | inserted before allowed made ih =>
    rw [Site.unit?_insertUnit] at found
    split at found
    · cases found
      rw [Battery.parameters_of_create made]
      exact .inl made
    · exact ih found
  | removed before removed ih =>
    rw [Site.unit?_removeUnit] at found
    split at found
    · cases found
    · exact ih found

end Engine

end HybridStorage
