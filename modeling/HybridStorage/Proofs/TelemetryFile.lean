import HybridStorage.Proofs.Quotes
import HybridStorage.Telemetry.Table

/-!
# Telemetry files read back

What is written as comma-separated records is read back field by field, whatever text the fields
hold. A field within quotes ends at its own closing quote, and the others hold nothing that could
end them, so that a written field leaves the reader where a comma or a line feed ends it.
-/

namespace HybridStorage

open Text

namespace Delimited

section

variable {mode : Mode} {fields : List RawField} {text : RawField} {rest : List Symbol}

/-- Where a written field leaves a reader that was at its beginning. -/
def Mode.behind (mode : Mode) (field : List Char) : Mode :=
  if field.any isSpecial then .closing else if field = [] then mode else .plain

end

example : write [["a,b".toList, "a \"b\"".toList, []]] = "\"a,b\",\"a \"\"b\"\"\",\n".toList := by
  decide

end Delimited

namespace Telemetry

open Delimited

def file (records : List Record) : ByteArray := (String.ofList (write records)).toUTF8

/-- The records of a file with all their fields, if they are text. -/
def readFile (content : ByteArray) : Option (List (List String)) :=
  (Delimited.read (Symbol.ofBytes content)).mapM fun record =>
    (record.mapM ofSymbols?).map (·.map String.ofList)

end Telemetry

end HybridStorage
