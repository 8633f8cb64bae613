/-!
# Files

What a program can learn about files: the content under a path or the reason why there is none.
-/

namespace HybridStorage

inductive FileFault where
  | notFound
  | notDirectory
  | isDirectory
  | noSpace
  | nameTooLong
  | nulInName
  /-- Any other reason, in the system's words. -/
  | other (text : String)
  deriving DecidableEq, Repr

def FileFault.message : FileFault → String
  | .notFound => "No such file or directory (os error 2)"
  | .notDirectory => "Not a directory (os error 20)"
  | .isDirectory => "Is a directory (os error 21)"
  | .noSpace => "No space left on device (os error 28)"
  | .nameTooLong => "File name too long (os error 36)"
  | .nulInName => "file name contained an unexpected NUL byte"
  | .other text => text

/-- A folder opens like a file, and only the reading of it fails. -/
def FileFault.isOfReading : FileFault → Bool
  | .isDirectory => true
  | _ => false

/-- The content of each path that can be read. -/
abbrev Disk := String → Except FileFault ByteArray

namespace Disk

def empty : Disk := fun _ => .error .notFound

/-- What was found under some paths; there is nothing under any other. -/
def ofList (found : List (String × Except FileFault ByteArray)) : Disk := fun path =>
  match found.lookup path with
  | some answer => answer
  | none => .error .notFound

end Disk

end HybridStorage
