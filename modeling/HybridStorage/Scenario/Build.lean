import HybridStorage.Scenario.Violation
import HybridStorage.Site.Engine

/-!
# Engines of scenarios

A scenario that breaks no rule has an engine; another one has a list of the rules that it breaks.
-/

namespace HybridStorage.Scenario

/-- The site with the batteries of some units, in order. A later unit takes the place of an earlier
one with its identifier. -/
def addUnits (site : Site) : List UnitSpec → Checked Site
  | [] => .ok site
  | u :: rest => do
    let b ← Battery.create u.parameters
    addUnits (site.insertUnit b).2 rest

def site (s : Scenario) : Checked Site := do
  let site ← addUnits .empty s.units
  pure (site.insertMeter { id := s.meter }).2

def loadProfile (s : Scenario) : LoadProfile :=
  LoadProfile.create s.load.base s.load.amplitude s.load.phase s.load.deviation s.simulation.seed

/-- Production draws from a stream of its own. -/
def productionProfile (s : Scenario) : Checked ProductionProfile :=
  ProductionProfile.create s.production.peak s.production.sunrise s.production.sunset
    s.production.deviation (s.simulation.seed + 1)

def clock (s : Scenario) : Clock where
  start := s.simulation.start
  period := .cutSeconds s.simulation.cycleSeconds.toNat
  total := s.simulation.cycles.toNat

def engine (s : Scenario) : Checked Engine := do
  let site ← s.site
  let production ← s.productionProfile
  pure {
    site
    controller := .create s.controller
    load := s.loadProfile
    production
    clock := s.clock }

/-- The engine of a valid scenario, or everything that is wrong with it. -/
def build (s : Scenario) : Checked (Except (List Violation) Engine) :=
  match s.violations with
  | [] => s.engine.map .ok
  | violations => .ok (.error violations)

end HybridStorage.Scenario
