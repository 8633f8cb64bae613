/-!
# Text that may not be UTF-8

A file is read as a list of symbols: characters, and bytes that belong to no character. Whether a
part of the file is text is decided on its bytes, so that dropping symbols in between cannot hide or
make up a character.
-/

namespace HybridStorage.Text

/-- A character of a file, or a byte that belongs to none. -/
inductive Symbol where
  | char (c : Char)
  | stray (byte : UInt8)
  deriving DecidableEq, Repr

namespace Symbol

/-- The symbols from byte `i` on: wherever a character starts, that character. -/
def readFrom (bytes : ByteArray) (i : Nat) : List Symbol :=
  if h : i < bytes.size then
    match bytes.utf8DecodeChar? i with
    | some c => .char c :: readFrom bytes (i + c.utf8Size)
    | none => .stray bytes[i] :: readFrom bytes (i + 1)
  else []
termination_by bytes.size - i
decreasing_by
  · have := c.utf8Size_pos; omega
  · omega

def ofBytes (bytes : ByteArray) : List Symbol := readFrom bytes 0

def bytes : Symbol → List UInt8
  | .char c => String.utf8EncodeChar c
  | .stray byte => [byte]

def char? : Symbol → Option Char
  | .char c => some c
  | .stray _ => none

end Symbol

/-- The text that the symbols spell, if their bytes are UTF-8. -/
def ofSymbols? (symbols : List Symbol) : Option (List Char) :=
  match symbols.mapM Symbol.char? with
  | some cs => some cs
  | none =>
    (String.fromUTF8? ⟨(symbols.flatMap Symbol.bytes).toArray⟩).map String.toList

end HybridStorage.Text
