import HybridStorage.Binary64.Basic

/-!
# TOML values

The values of a TOML document, and how its statements build up tables. A table remembers how it came
about, because that decides what may still be added to it: a table of its own header and an inline
table are closed to dotted keys, and only a table that another header implied can get its own header
later.
-/

namespace HybridStorage.Toml

/-- How a table came about. -/
inductive Origin where
  /-- Its own header, or the top of the document. -/
  | header
  /-- A header below it. -/
  | implied
  /-- A dotted key. -/
  | dotted
  /-- A value in braces. -/
  | inline
  deriving DecidableEq, Repr

inductive Value where
  | text (s : String)
  | integer (n : Int)
  | real (x : Binary64)
  | truth (b : Bool)
  /-- A date, a time or both. -/
  | moment
  /-- An array, written in brackets or as a series of headers. -/
  | array (ofHeaders : Bool) (items : List Value)
  | table (origin : Origin) (entries : List (String × Value))

/-- The entries of a table, each key once. -/
abbrev Entries := List (String × Value)

/-- Puts a value under a key. -/
def Entries.set (entries : Entries) (key : String) (value : Value) : Entries :=
  entries.filter (fun entry => entry.1 ≠ key) ++ [(key, value)]

/-- Changes the table that a path leads to. Tables that are missing on the way are made; of an array
of headers the last table is meant. Dotted keys do not lead into tables with a header. -/
def Entries.within (dotted : Bool) (change : Origin → Entries → Option Entries) :
    List String → Origin → Entries → Option Entries
  | [], origin, entries => change origin entries
  | key :: path, _, entries =>
    match entries.lookup key with
    | none => do
      let origin := if dotted then .dotted else .implied
      let inner ← within dotted change path origin []
      some (Entries.set entries key (.table origin inner))
    | some (.table origin inner) =>
      if origin = .inline ∨ (dotted ∧ origin = .header) then none
      else do
        let inner ← within dotted change path origin inner
        some (Entries.set entries key (.table origin inner))
    | some (.array true items) =>
      match items.getLast? with
      | some (.table origin inner) => do
        let inner ← within dotted change path origin inner
        some (Entries.set entries key (.array true (items.dropLast ++ [.table origin inner])))
      | _ => none
    | some _ => none

/-- A dotted key with its value: the path before the last key, the key and the value. -/
structure Pair where
  path : List String
  key : String
  value : Value

/-- Adds a pair to a table. Its key must be new, and a path must end in a table that only dotted
keys made. -/
def Entries.add (entries : Entries) (p : Pair) : Option Entries :=
  Entries.within true (fun origin inner =>
    if decide (origin = .dotted) = p.path.isEmpty ∨ (inner.lookup p.key).isSome then none
    else some (inner ++ [(p.key, p.value)])) p.path .header entries

def Entries.addAll (entries : Entries) (pairs : List Pair) : Option Entries :=
  pairs.foldlM Entries.add entries

/-- A header, and the pairs below it. -/
structure Section where
  /-- The header is doubled, and starts one more table of an array. -/
  ofArray : Bool
  path : List String
  key : String
  pairs : List Pair

/-- Adds a section to a document. -/
def Entries.addSection (root : Entries) (s : Section) : Option Entries :=
  Entries.within false (fun _ parent =>
    match s.ofArray, parent.lookup s.key with
    | false, none => do
      let inner ← Entries.addAll [] s.pairs
      some (Entries.set parent s.key (.table .header inner))
    | false, some (.table .implied inner) => do
      let inner ← Entries.addAll inner s.pairs
      some (Entries.set parent s.key (.table .header inner))
    | true, none => do
      let inner ← Entries.addAll [] s.pairs
      some (Entries.set parent s.key (.array true [.table .header inner]))
    | true, some (.array true items) => do
      let inner ← Entries.addAll [] s.pairs
      some (Entries.set parent s.key (.array true (items ++ [.table .header inner])))
    | _, _ => none) s.path .header root

/-- The document of the pairs before the first header and of the sections. -/
def document? (lead : List Pair) (sections : List Section) : Option Value := do
  let root ← Entries.addAll [] lead
  let root ← sections.foldlM Entries.addSection root
  some (.table .header root)

end HybridStorage.Toml
