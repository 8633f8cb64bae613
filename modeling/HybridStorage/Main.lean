import HybridStorage.CommandLine.Run

/-!
# The program

Reads the files that a run needs, and carries out what the run decides.
-/

namespace HybridStorage.CommandLine

def faultOf : IO.Error → FileFault
  | .noFileOrDirectory _ _ _ => .notFound
  | .inappropriateType _ 20 _ => .notDirectory
  | .inappropriateType _ 21 _ => .isDirectory
  | .resourceExhausted _ 28 _ => .noSpace
  | .invalidArgument _ 36 _ => .nameTooLong
  | e => .other (toString e)

def readFile (path : String) : IO (Except FileFault ByteArray) := do
  try
    return .ok (← IO.FS.readBinFile path)
  catch e => return .error (faultOf e)

def writeFile (path content : String) : IO (Except FileFault Unit) := do
  try
    IO.FS.writeFile path content
    return .ok ()
  catch e => return .error (faultOf e)

def readFiles (paths : List String) : IO Disk := do
  return .ofList (← paths.mapM fun path => do return (path, ← readFile path))

/-- The scenario's own file comes first, since it names the others. -/
def readNeeded (o : Options) : IO Disk := do
  let own ← readFiles (o.filesRead .empty)
  readFiles (o.filesRead own)

def Report.print (r : Report) : IO UInt32 := do
  for line in r.output do
    IO.println line
  for line in r.errors do
    IO.eprintln line
  return r.code

end HybridStorage.CommandLine

open HybridStorage HybridStorage.CommandLine

def main (arguments : List String) : IO UInt32 := do
  let environment ← IO.getEnv scenarioVariable
  let disk ← match Options.read environment arguments with
    | some o => readNeeded o
    | none => pure .empty
  match start environment arguments disk with
  | .ended report => report.print
  | .writing writing =>
    let written ← writeFile writing.path writing.content
    (writing.report written).print
