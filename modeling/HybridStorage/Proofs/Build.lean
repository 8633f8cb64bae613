import HybridStorage.Proofs.ChargeBounds
import HybridStorage.Proofs.Session
import HybridStorage.Proofs.Violations

/-!
# Engines of valid scenarios

Nothing that a valid scenario says keeps its engine from being built, and the engine has exactly
the units of the scenario.
-/

namespace HybridStorage

def Scenario.unit? (s : Scenario) (id : String) : Option UnitSpec := s.units.find? (·.id = id)

namespace Battery

theorem create_ok (p : Parameters) : ∃ b, create p = .ok b :=
  ⟨_, bind_eq_ok_iff.mpr ⟨_, startEnergy_eq p, rfl⟩⟩

end Battery

namespace Scenario

/-- Under each identifier there is the battery of its unit, or what was there before. -/
theorem parameters_of_addUnits {units : List UnitSpec} (nodup : (units.map UnitSpec.id).Nodup)
    (site : Site) : ∃ site', addUnits site units = .ok site' ∧ ∀ id,
      (site'.unit? id).map (·.parameters) =
        ((units.find? (·.id = id)).map UnitSpec.parameters).or
          ((site.unit? id).map (·.parameters)) := by
  induction units generalizing site with
  | nil => exact ⟨site, rfl, fun id => rfl⟩
  | cons u rest ih =>
    obtain ⟨fresh, nodup⟩ := List.nodup_cons.mp nodup
    obtain ⟨b, created⟩ := Battery.create_ok u.parameters
    have parameters := Battery.parameters_of_create created
    obtain ⟨site', added, found⟩ := ih nodup (site.insertUnit b).2
    refine ⟨site', bind_eq_ok_iff.mpr ⟨b, created, added⟩, ?_⟩
    intro id
    rw [found, Site.unit?_insertUnit, parameters, List.find?_cons]
    by_cases same : u.id = id
    · subst same
      have absent : rest.find? (·.id = u.id) = none := by
        apply List.find?_eq_none.mpr
        intro other member equal
        exact fresh (List.mem_map.mpr ⟨other, member, of_decide_eq_true equal⟩)
      rw [absent, if_pos (show u.id = u.parameters.id from rfl), decide_eq_true rfl]
      change some b.parameters = some u.parameters
      rw [parameters]
    · rw [if_neg (show ¬id = u.parameters.id from fun h => same h.symm), decide_eq_false same]

/-- What the engine of a scenario is made of. -/
structure Builds (s : Scenario) (e : Engine) : Prop where
  units : ∀ id, (e.site.unit? id).map (·.parameters) = (s.unit? id).map UnitSpec.parameters
  meter : e.site.meters.get? s.meter = some { id := s.meter }
  controller : e.controller = .create s.controller
  load : e.load = s.loadProfile
  production : s.productionProfile = .ok e.production
  clock : e.clock = s.clock

theorem engine_ok {s : Scenario} (sound : s.Sound) : ∃ e, s.engine = .ok e ∧ s.Builds e := by
  obtain ⟨site, added, units⟩ := parameters_of_addUnits sound.ids .empty
  have made : s.site = .ok (site.insertMeter { id := s.meter }).2 :=
    bind_eq_ok_iff.mpr ⟨site, added, rfl⟩
  have production : s.productionProfile = .ok _ := if_pos sound.daylight
  refine ⟨_, bind_eq_ok_iff.mpr ⟨_, made, bind_eq_ok_iff.mpr ⟨_, production, rfl⟩⟩, ?_⟩
  refine ⟨?_, ?_, rfl, rfl, production, rfl⟩
  · intro id
    exact (units id).trans (Option.or_none)
  · exact (Roster.get?_insert _ _ _ _).trans (if_pos rfl)

theorem build_ok {s : Scenario} (valid : s.violations = []) :
    ∃ e, s.build = .ok (.ok e) ∧ s.Builds e := by
  obtain ⟨e, made, builds⟩ := engine_ok (sound valid)
  exact ⟨e, build_eq_ok_iff.mpr ⟨valid, made⟩, builds⟩

theorem builds_of_build {s : Scenario} {e : Engine} (build : s.build = .ok (.ok e)) :
    s.Builds e := by
  obtain ⟨_, build', builds⟩ := build_ok (build_eq_ok_iff.mp build).1
  cases build.symm.trans build'
  exact builds

theorem mem_of_unit? {s : Scenario} {id : String} {u : UnitSpec} (found : s.unit? id = some u) :
    u ∈ s.units ∧ u.id = id := by
  have same := List.find?_some found
  exact ⟨List.mem_of_find?_eq_some found, of_decide_eq_true same⟩

theorem unit?_of_mem {s : Scenario} {id : String} (member : id ∈ s.units.map UnitSpec.id) :
    ∃ u, s.unit? id = some u := by
  obtain ⟨u, member, same⟩ := List.mem_map.mp member
  exact Option.isSome_iff_exists.mp (List.find?_isSome.mpr ⟨u, member, decide_eq_true same⟩)

end Scenario

end HybridStorage
