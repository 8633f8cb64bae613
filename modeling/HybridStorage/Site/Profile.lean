import HybridStorage.Binary64.Order
import HybridStorage.Noise.Normal
import HybridStorage.Quantity
import HybridStorage.Time.Instant

/-!
# Load and production profiles

The site's consumption follows a daily sine and its production a half sine between sunrise and
sunset, both with noise. Powers are whole watts and never negative.
-/

namespace HybridStorage

open Noise

/-- Part of the day that has passed, without fractions of a second. -/
def Instant.dayFraction (t : Instant) : Float := Float.ofNat t.second / 86400.0

/-- The nearest power that is not negative, a half going up; none for a NaN. -/
def Watts.ofFloat (x : Float) : Watts :=
  Int32.ofInt (Binary64.roundWithin 0 Reading.highest (.ofFloat x))

structure LoadProfile where
  /-- Mean power in W. -/
  base : Float
  /-- Amplitude of the daily sine in W. -/
  amplitude : Float
  /-- Phase of the sine at midnight. -/
  phase : Float
  /-- Standard deviation of the noise in W. -/
  deviation : Float
  generator : ChaCha.Generator

namespace LoadProfile

def create (base amplitude phase deviation : Binary64) (seed : UInt64) : LoadProfile where
  base := base.toFloat
  amplitude := amplitude.toFloat
  phase := phase.toFloat
  deviation := atLeastZero deviation.toFloat
  generator := .ofSeed seed

def demand (p : LoadProfile) (now : Instant) : Watts × LoadProfile :=
  let angle := 2.0 * pi * now.dayFraction + p.phase
  let (noise, generator) := normal p.deviation p.generator
  (Watts.ofFloat (p.base + p.amplitude * Float.sin angle + noise), { p with generator })

end LoadProfile

structure ProductionProfile where
  /-- Power at the height of the day in W. -/
  peak : Float
  /-- Hour of the day at which production starts. -/
  sunrise : Float
  /-- Hour of the day from which there is none. -/
  sunset : Float
  /-- Standard deviation of the noise, relative to the power. -/
  deviation : Float
  generator : ChaCha.Generator

namespace ProductionProfile

/-- An hour of the day, midnight at either end included. -/
def isHour (x : Binary64) : Bool := Binary64.within (.ofNat 0) (.ofNat 24) x

/-- Sunrise comes before sunset within one day. -/
def isDaylight (sunrise sunset : Binary64) : Bool :=
  isHour sunrise && isHour sunset && sunrise.lt sunset

def create (peak sunrise sunset deviation : Binary64) (seed : UInt64) : Checked ProductionProfile :=
  if isDaylight sunrise sunset then
    .ok {
      peak := atLeastZero peak.toFloat
      sunrise := sunrise.toFloat
      sunset := sunset.toFloat
      deviation := atLeastZero deviation.toFloat
      generator := .ofSeed seed }
  else .error .daylightWindow

def daylight (p : ProductionProfile) (now : Instant) : Float :=
  let hour := now.dayFraction * 24.0
  if hour < p.sunrise ∨ p.sunset ≤ hour then 0.0
  else atLeastZero (Float.sin (pi * ((hour - p.sunrise) / (p.sunset - p.sunrise))))

/-- Production at an instant. Without daylight there is none, and no noise is drawn. -/
def power (p : ProductionProfile) (now : Instant) : Watts × ProductionProfile :=
  let daylight := p.daylight now
  if daylight ≤ 0.0 then (0, p)
  else
    let (noise, generator) := normal p.deviation p.generator
    (Watts.ofFloat (p.peak * daylight * (1.0 + noise)), { p with generator })

end ProductionProfile

end HybridStorage
