import HybridStorage.Disk
import HybridStorage.Scenario.Decode
import HybridStorage.Scenario.Violation
import HybridStorage.Toml.Document

/-!
# Loading scenarios

A scenario comes from a text, from a file or from the presets. Errors of loading and violations are
told in the same way, as a field and what is wrong with it.
-/

namespace HybridStorage

inductive LoadError where
  | unknownPreset (name : String)
  | unreadable (path : String) (fault : FileFault)
  | notText (path : String)
  /-- The text is not the TOML of a scenario. -/
  | malformed
  deriving DecidableEq, Repr

namespace LoadError

def field : LoadError → String
  | .unknownPreset _ => "preset"
  | .unreadable _ _ => "scenario"
  | .notText _ => "scenario"
  | .malformed => "toml"

def unreadableMessage (path reason : String) : String :=
  "cannot read \"" ++ path ++ "\": " ++ reason

def message : LoadError → String
  | .unknownPreset name =>
    "unknown preset \"" ++ name ++ "\", available: " ++
      String.intercalate ", " (Scenario.presets.map Prod.fst)
  | .unreadable path fault => unreadableMessage path fault.message
  | .notText path => unreadableMessage path "stream did not contain valid UTF-8"
  | .malformed => "not a scenario"

end LoadError

/-- What is wrong with a field of a scenario. -/
def fieldText (field message : String) : String := "config error: " ++ field ++ ": " ++ message

def LoadError.text (e : LoadError) : String := fieldText e.field e.message

def Violation.text (v : Violation) : String := fieldText v.field v.message

namespace Scenario

def ofPreset (name : String) : Except LoadError Scenario :=
  match presets.lookup name with
  | some s => .ok s
  | none => .error (.unknownPreset name)

def ofText (text : String) : Except LoadError Scenario :=
  match (Toml.parse? text).bind decode with
  | some s => .ok s
  | none => .error .malformed

def ofFile (disk : Disk) (path : String) : Except LoadError Scenario :=
  match disk path with
  | .error fault => .error (.unreadable path fault)
  | .ok content =>
    match String.fromUTF8? content with
    | some text => ofText text
    | none => .error (.notText path)

inductive Source where
  | preset (name : String)
  | text (text : String)
  | file (path : String)
  deriving DecidableEq, Repr

def ofSource (disk : Disk) : Source → Except LoadError Scenario
  | .preset name => ofPreset name
  | .text text => ofText text
  | .file path => ofFile disk path

/-- The scenario with another number of cycles or another seed, where one is given. -/
def override (s : Scenario) (cycles seed : Option UInt64) : Scenario :=
  { s with
    simulation := { s.simulation with
      cycles := cycles.getD s.simulation.cycles
      seed := seed.getD s.simulation.seed } }

def forecastFiles (s : Scenario) : List String :=
  s.controller.energyForecast.toList ++ s.controller.powerForecast.toList

end Scenario

end HybridStorage
