import HybridStorage.CommandLine.Options
import HybridStorage.Scenario.Build
import HybridStorage.Scenario.Load
import HybridStorage.Telemetry.Table

/-!
# Runs of the program

A run loads a scenario, simulates all of its cycles, prints a line for each and writes the records
to a file if it is asked to. `start` is everything up to the writing, and `Writing.report` what
comes after it. Nothing is printed before the last cycle has ended.
-/

namespace HybridStorage.CommandLine

/-- What a run prints, line by line, and its exit code. -/
structure Report where
  output : List String
  errors : List String
  code : UInt32
  deriving DecidableEq, Repr

namespace Report

def usage : Report where
  output := []
  errors := ["usage: [--scenario FILE | --preset NAME] [--cycles N] [--seed N] " ++
    "[--telemetry-out FILE] [--quiet]"]
  code := 2

def fault (fault : Fault) : Report where
  output := []
  errors := [fault.message]
  code := 101

def errorLines (message : String) : List String := ["Error: " ++ message]

/-- The lines of an error with a cause. Further lines of the cause are indented like its first. -/
def causedLines (message cause : String) : List String :=
  errorLines message ++ ["", "Caused by:"] ++ (cause.splitOn "\n").map ("    " ++ ·)

end Report

/-- A run that has only its records left to write. -/
structure Writing where
  output : List String
  path : String
  content : String
  deriving DecidableEq, Repr

/-- The end of a run whose records were written, or could not be. -/
def Writing.report (w : Writing) : Except FileFault Unit → Report
  | .ok () => ⟨w.output, [], 0⟩
  | .error fault =>
    ⟨w.output, Report.causedLines ("failed to write CSV to " ++ w.path) fault.message, 1⟩

/-- How far a run gets without writing. -/
inductive Progress where
  | ended (report : Report)
  | writing (writing : Writing)
  deriving DecidableEq, Repr

namespace Options

/-- Where the scenario comes from; the hybrid one is the default. -/
def source (o : Options) : Scenario.Source :=
  match o.scenario with
  | some path => .file path
  | none => .preset (o.preset.getD "hybrid")

def loadScenario (o : Options) (disk : Disk) : Except LoadError Scenario :=
  (Scenario.ofSource disk o.source).map (·.override o.cycles o.seed)

def loadFailure (o : Options) (e : LoadError) : Report :=
  let lines := match o.scenario with
    | some path => Report.causedLines ("failed to load scenario " ++ path) e.text
    | none => Report.errorLines e.text
  ⟨[], lines, 1⟩

def shows (o : Options) (r : Record) : Bool := !o.quiet ∨ r.status = .aborted

def present (o : Options) (records : List Record) : Progress :=
  let output := (records.filter o.shows).map Record.line
  match o.telemetry with
  | none => .ended ⟨output, [], 0⟩
  | some path => .writing ⟨output, path, String.ofList (Telemetry.write records)⟩

/-- The files that a run reads, as far as a disk shows. -/
def filesRead (o : Options) (disk : Disk) : List String :=
  o.scenario.toList ++ match o.loadScenario disk with
    | .ok s => s.forecastFiles
    | .error _ => []

end Options

def invalidReport (violations : List Violation) : Report where
  output := []
  errors := violations.map Violation.text ++
    Report.errorLines ("invalid scenario (" ++ Text.ofInt violations.length ++ " errors)")
  code := 1

def simulate (o : Options) (s : Scenario) (disk : Disk) : Progress :=
  match s.build with
  | .error fault => .ended (.fault fault)
  | .ok (.error violations) => .ended (invalidReport violations)
  | .ok (.ok engine) =>
    match engine.run disk with
    | .error fault => .ended (.fault fault)
    | .ok (records, _) => o.present records

/-- A run up to the writing of its records. -/
def start (environment : Option String) (arguments : List String) (disk : Disk) : Progress :=
  match Options.read environment arguments with
  | none => .ended .usage
  | some o =>
    match o.loadScenario disk with
    | .error e => .ended (o.loadFailure e)
    | .ok s => simulate o s disk

end HybridStorage.CommandLine
