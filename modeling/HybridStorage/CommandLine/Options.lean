import HybridStorage.Text.Decimal

/-!
# Command-line options

An option takes its value from the same argument behind an equals sign, or from the next argument.
Each may be given once. The scenario can also come from the environment, unless an option names it.
A command line that cannot be read has no options.
-/

namespace HybridStorage.CommandLine

open Text

structure Options where
  scenario : Option String := none
  preset : Option String := none
  cycles : Option UInt64 := none
  seed : Option UInt64 := none
  telemetry : Option String := none
  /-- Print aborted cycles only. -/
  quiet : Bool := false
  deriving DecidableEq, Repr

/-- The environment variable that names a scenario file. -/
def scenarioVariable : String := "ESS_DISPATCH_SCENARIO"

inductive Key where
  | scenario
  | preset
  | cycles
  | seed
  | telemetry
  deriving DecidableEq, Repr

def Key.ofName? : String → Option Key
  | "--scenario" => some .scenario
  | "--preset" => some .preset
  | "--cycles" => some .cycles
  | "--seed" => some .seed
  | "--telemetry-out" => some .telemetry
  | _ => none

/-- A path has at least one character. -/
def path? (value : String) : Option String := if value = "" then none else some value

/-- A number of at most 64 bits, with or without a plus sign. -/
def natural64? (value : String) : Option UInt64 :=
  let digits := match value.toList with
    | '+' :: rest => rest
    | cs => cs
  if digits ≠ [] ∧ digits.all isDigit ∧ natural digits < UInt64.size then
    some (UInt64.ofNat (natural digits))
  else none

/-- Fills in what was empty before. -/
def once {α : Type} (present read : Option α) : Option (Option α) :=
  if present.isSome then none else read.map some

namespace Options

def put (o : Options) (value : String) : Key → Option Options
  | .scenario => (once o.scenario (path? value)).map fun scenario => { o with scenario }
  | .preset => (once o.preset (some value)).map fun preset => { o with preset }
  | .cycles => (once o.cycles (natural64? value)).map fun cycles => { o with cycles }
  | .seed => (once o.seed (natural64? value)).map fun seed => { o with seed }
  | .telemetry => (once o.telemetry (path? value)).map fun telemetry => { o with telemetry }

/-- An argument with its value behind the first equals sign, if it has one. -/
def splitValue (argument : String) : String × Option String :=
  let name := argument.toList.takeWhile (· ≠ '=')
  match argument.toList.drop name.length with
  | [] => (argument, none)
  | _ :: value => (String.ofList name, some (String.ofList value))

/-- The argument can be a value: only a lone hyphen may start with one. -/
def isValue (argument : String) : Bool := argument = "-" ∨ !argument.startsWith "-"

/-- Reads arguments on top of the options read so far. -/
def readFrom (o : Options) : List String → Option Options
  | [] => some o
  | argument :: rest =>
    if argument = "--" then if rest = [] then some o else none
    else if argument = "--quiet" ∨ argument = "-q" then
      if o.quiet then none else readFrom { o with quiet := true } rest
    else
      match splitValue argument, rest with
      | (name, some value), rest => do
        let key ← Key.ofName? name
        readFrom (← o.put value key) rest
      | (name, none), value :: rest => do
        let key ← Key.ofName? name
        if isValue value then readFrom (← o.put value key) rest else none
      | (_, none), [] => none

/-- Takes the scenario from the environment if no option names one. -/
def withVariable (o : Options) (environment : Option String) : Option Options :=
  match o.scenario, environment with
  | none, some value => o.put value .scenario
  | _, _ => some o

/-- Reads a command line. A scenario and a preset exclude each other. -/
def read (environment : Option String) (arguments : List String) : Option Options := do
  let o ← readFrom {} arguments
  let o ← o.withVariable environment
  if o.scenario.isSome ∧ o.preset.isSome then none else some o

end Options

end HybridStorage.CommandLine
