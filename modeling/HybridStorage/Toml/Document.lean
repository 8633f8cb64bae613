import HybridStorage.Toml.Scalar

/-!
# TOML documents

Arrays, inline tables, keys, headers and whole documents. `parse?` reads a document; a text that is
none has no value. Values are read with `fuel`, which the length of the text bounds, since every
step takes a character with it; `depth` is how far they may still nest.
-/

namespace HybridStorage.Toml

/-- How deep arrays and inline tables may nest, and how many parts a key may have. -/
def deepest : Nat := 79

def skipSpaces (cs : List Char) : List Char := cs.dropWhile isSpace

/-- Drops blanks, line ends and comments. -/
def skipLines (inComment : Bool) : List Char → List Char
  | [] => []
  | '\r' :: '\n' :: rest => skipLines false rest
  | c :: rest =>
    if inComment ∧ isPlain c then skipLines true rest
    else if isSpace c ∨ c = '\n' then skipLines false rest
    else if c = '#' then skipLines true rest
    else c :: rest

/-- What may follow a statement on its line: blanks, a comment and the line end. -/
def readLineEnd (cs : List Char) : Option (List Char) :=
  let cs := match skipSpaces cs with
    | '#' :: rest => rest.dropWhile isPlain
    | cs => cs
  match cs with
  | [] => some []
  | '\n' :: rest => some rest
  | '\r' :: '\n' :: rest => some rest
  | _ => none

def isBare (c : Char) : Bool := c.isAlphanum ∨ c = '_' ∨ c = '-'

/-- A key without dots: bare, or a string on one line. -/
def readSimpleKey (cs : List Char) : Option (Scanned String) :=
  match cs with
  | '"' :: rest => (readBasic rest).map fun (key, rest) => (String.ofList key, rest)
  | '\'' :: rest => (readLiteral rest).map fun (key, rest) => (String.ofList key, rest)
  | cs =>
    let run := cs.takeWhile isBare
    if run.isEmpty then none else some (String.ofList run, cs.drop run.length)

/-- Up to `parts` keys with dots between them and blanks around each: the path and the last key. -/
def readKey (parts : Nat) (cs : List Char) : Option (Scanned (List String × String)) :=
  match parts with
  | 0 => none
  | parts + 1 => do
    let (key, cs) ← readSimpleKey (skipSpaces cs)
    match skipSpaces cs with
    | '.' :: rest =>
      let ((path, last), rest) ← readKey parts rest
      some ((key :: path, last), rest)
    | cs => some (([], key), cs)

mutual

/-- Any value. -/
def readValue (fuel depth : Nat) (cs : List Char) : Option (Scanned Value) :=
  match fuel with
  | 0 => none
  | fuel + 1 =>
    match cs, depth with
    | '[' :: rest, depth + 1 => do
      let (items, rest) ← readItems fuel depth (skipLines false rest)
      some (.array false items, rest)
    | '\x7b' :: rest, depth + 1 => do
      let (pairs, rest) ←
        match skipSpaces rest with
        | '\x7d' :: rest => some ([], rest)
        | rest => readPairs fuel depth rest
      let entries ← Entries.addAll [] pairs
      some (.table .inline entries, rest)
    | cs, _ => readScalar cs

/-- The items of an array up to its closing bracket. A comma may follow the last one. -/
def readItems (fuel depth : Nat) (cs : List Char) : Option (Scanned (List Value)) :=
  match fuel with
  | 0 => none
  | fuel + 1 =>
    match cs with
    | ']' :: rest => some ([], rest)
    | cs => do
      let (item, cs) ← readValue fuel depth cs
      match skipLines false cs with
      | ',' :: rest =>
        let (items, rest) ← readItems fuel depth (skipLines false rest)
        some (item :: items, rest)
      | ']' :: rest => some ([item], rest)
      | _ => none

/-- The pairs of an inline table up to its closing brace, on one line. -/
def readPairs (fuel depth : Nat) (cs : List Char) : Option (Scanned (List Pair)) :=
  match fuel with
  | 0 => none
  | fuel + 1 => do
    let (pair, cs) ← readPair fuel depth cs
    match skipSpaces cs with
    | ',' :: rest =>
      let (pairs, rest) ← readPairs fuel depth rest
      some (pair :: pairs, rest)
    | '\x7d' :: rest => some ([pair], rest)
    | _ => none

/-- A key, an equals sign and a value. -/
def readPair (fuel depth : Nat) (cs : List Char) : Option (Scanned Pair) :=
  match fuel with
  | 0 => none
  | fuel + 1 => do
    let ((path, key), cs) ← readKey deepest cs
    let cs ← readMark '=' cs
    let (value, cs) ← readValue fuel depth (skipSpaces cs)
    some (⟨path, key, value⟩, cs)

end

/-- A header behind its first bracket. -/
def readHeader (cs : List Char) : Option (Scanned Section) := do
  let (ofArray, cs) := match cs with
    | '[' :: rest => (true, rest)
    | cs => (false, cs)
  let ((path, key), cs) ← readKey deepest cs
  let cs ← readMark ']' cs
  let cs ← if ofArray then readMark ']' cs else some cs
  let cs ← readLineEnd cs
  some (⟨ofArray, path, key, []⟩, cs)

/-- The pairs before the next header, and the sections from there on. -/
def readSections (fuel : Nat) (cs : List Char) : Option (List Pair × List Section) :=
  match fuel with
  | 0 => none
  | fuel + 1 =>
    match skipSpaces cs with
    | [] => some ([], [])
    | '[' :: rest => do
      let (header, rest) ← readHeader rest
      let (pairs, sections) ← readSections fuel rest
      some ([], { header with pairs } :: sections)
    | cs =>
      match readLineEnd cs with
      | some rest => readSections fuel rest
      | none => do
        let (pair, rest) ← readPair fuel deepest cs
        let rest ← readLineEnd rest
        let (pairs, sections) ← readSections fuel rest
        some (pair :: pairs, sections)

/-- Reads a document. A byte order mark at its start is no part of it. -/
def parse? (text : String) : Option Value := do
  let cs := match text.toList with
    | '\ufeff' :: rest => rest
    | cs => cs
  let (lead, sections) ← readSections (2 * cs.length + 3) cs
  document? lead sections

end HybridStorage.Toml
