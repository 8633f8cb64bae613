/-!
# Writing comma-separated records

A field is quoted only if it holds a comma, a quote or a line end, and a quote inside it is doubled.
Each record ends with a line feed.
-/

namespace HybridStorage.Delimited

/-- A character that makes quoting necessary. -/
def isSpecial (c : Char) : Bool := c = ',' ∨ c = '"' ∨ c = '\n' ∨ c = '\r'

def doubleQuotes : List Char → List Char
  | [] => []
  | c :: rest => if c = '"' then '"' :: '"' :: doubleQuotes rest else c :: doubleQuotes rest

def writeField (text : List Char) : List Char :=
  if text.any isSpecial then '"' :: doubleQuotes text ++ ['"'] else text

def writeFields : List (List Char) → List Char
  | [] => []
  | [field] => writeField field
  | field :: rest => writeField field ++ ',' :: writeFields rest

def writeRecord (fields : List (List Char)) : List Char := writeFields fields ++ ['\n']

def write (records : List (List (List Char))) : List Char := records.flatMap writeRecord

end HybridStorage.Delimited
