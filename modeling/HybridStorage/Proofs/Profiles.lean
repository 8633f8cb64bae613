import HybridStorage.Scenario.Build

/-!
# Profiles at rest

Nothing is known of a sine but that it is a double. That is enough where a profile takes it times
zero: without a swing and noise the load stays at its base or, should the product be no number, is
zero. In the dark there is no production.
-/

namespace HybridStorage

/-- What zero times a double can be. -/
def zeroProducts : List Float := [0.0, -0.0, 0.0 / 0.0]

theorem zero_mul_mem_zeroProducts (x : Float) : 0.0 * x ∈ zeroProducts := by
  have product : (0.0 * x : Float) =
      .ofModel (.pack (.mul .binary64 (.zero .positive) x.toModel.unpack)) := rfl
  rw [product]
  cases x.toModel.unpack with
  | infinity sign => exact .tail _ (.tail _ (.head _))
  | notANumber => exact .tail _ (.tail _ (.head _))
  | zero sign =>
    cases sign with
    | positive => exact .head _
    | negative => exact .tail _ (.head _)
  | finite sign =>
    cases sign with
    | positive => exact .head _
    | negative => exact .tail _ (.head _)

theorem LoadProfile.demand_of_steady {p : LoadProfile} (steady : p.amplitude = 0.0)
    (noiseless : p.deviation ≤ 0.0) (now : Instant) :
    ∃ swing ∈ zeroProducts, p.demand now = (Watts.ofFloat (p.base + swing + 0.0), p) := by
  have answered : p.demand now = (Watts.ofFloat (p.base +
      p.amplitude * Float.sin (2.0 * Noise.pi * now.dayFraction + p.phase) + 0.0), p) := by
    rw [demand, Noise.normal, if_pos noiseless]
  rw [steady] at answered
  exact ⟨_, zero_mul_mem_zeroProducts _, answered⟩

theorem ProductionProfile.power_of_dark {p : ProductionProfile} {now : Instant}
    (dark : p.daylight now ≤ 0.0) : p.power now = (0, p) := by
  rw [power]
  exact if_pos dark

namespace Scenario

/-- Whether a cycle of the scenario is in the dark. -/
def dark? (s : Scenario) (k : Nat) : Option Bool := do
  let now ← (s.clock.timeOf k).toOption
  let p ← s.productionProfile.toOption
  some (decide (p.daylight now ≤ 0.0))

/-- A constant load, and no production. -/
structure Quiet (s : Scenario) : Prop where
  steady : s.loadProfile.amplitude = 0.0
  noiseless : s.loadProfile.deviation ≤ 0.0
  dark : ∀ k < s.simulation.cycles.toNat, s.dark? k = some true

namespace Quiet

variable {s : Scenario} {k : Nat} {now : Instant} {p : ProductionProfile}

theorem demand (quiet : s.Quiet) (generator : ChaCha.Generator) (now : Instant) :
    ∃ swing ∈ zeroProducts, { s.loadProfile with generator }.demand now =
      (Watts.ofFloat (s.loadProfile.base + swing + 0.0), { s.loadProfile with generator }) :=
  LoadProfile.demand_of_steady (p := { s.loadProfile with generator }) quiet.steady
    quiet.noiseless now

theorem power (quiet : s.Quiet) (more : k < s.simulation.cycles.toNat)
    (time : s.clock.timeOf k = .ok now) (made : s.productionProfile = .ok p)
    (generator : ChaCha.Generator) :
    { p with generator }.power now = (0, { p with generator }) := by
  have dark := quiet.dark k more
  rw [dark?, time, made] at dark
  have low : p.daylight now ≤ 0.0 := of_decide_eq_true (Option.some.inj dark)
  exact ProductionProfile.power_of_dark (p := { p with generator }) low

end Quiet

end Scenario

end HybridStorage
