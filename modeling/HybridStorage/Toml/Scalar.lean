import HybridStorage.Text.Decimal
import HybridStorage.Time.Calendar
import HybridStorage.Toml.Value

/-!
# TOML scalars

Strings, numbers, dates and times. Each reader takes a text and answers what it read and the rest.
-/

namespace HybridStorage.Toml

open Text

/-- What was read, and the rest of the text. -/
abbrev Scanned (α : Type) := α × List Char

/-- A space or tab. -/
def isSpace (c : Char) : Bool := c = ' ' ∨ c = '\t'

/-- Text without control characters, the tab apart. -/
def isPlain (c : Char) : Bool := c = '\t' ∨ (' ' ≤ c ∧ c ≤ '~') ∨ 0x80 ≤ c.toNat

/-- The rest of the text behind a word. -/
def afterWord? : List Char → List Char → Option (List Char)
  | [], cs => some cs
  | w :: word, c :: cs => if w = c then afterWord? word cs else none
  | _ :: _, [] => none

/-! ### Strings -/

def hexDigit? (c : Char) : Option Nat :=
  if '0' ≤ c ∧ c ≤ '9' then some (c.toNat - 48)
  else if 'a' ≤ c ∧ c ≤ 'f' then some (c.toNat - 87)
  else if 'A' ≤ c ∧ c ≤ 'F' then some (c.toNat - 55)
  else none

/-- The number of hexadecimal digits. -/
def hexNumber? (cs : List Char) : Option Nat :=
  cs.foldlM (fun n c => (hexDigit? c).map (16 * n + ·)) 0

/-- The character with a code point in hexadecimal digits. -/
def codePoint? (cs : List Char) : Option Char := do
  let n ← hexNumber? cs
  if n.isValidChar then some (Char.ofNat n) else none

/-- The character that a letter behind a backslash stands for. -/
def escape? : Char → Option Char
  | 'b' => some '\x08'
  | 't' => some '\t'
  | 'n' => some '\n'
  | 'f' => some '\x0c'
  | 'r' => some '\r'
  | '"' => some '"'
  | '\\' => some '\\'
  | _ => none

/-- Blanks and then a line end follow. -/
def endsLine (cs : List Char) : Bool :=
  match cs.dropWhile isSpace with
  | '\n' :: _ => true
  | '\r' :: '\n' :: _ => true
  | _ => false

/-- Puts a character in front of what is read. -/
def push (c : Char) (r : Option (Scanned (List Char))) : Option (Scanned (List Char)) :=
  r.map fun (cs, rest) => (c :: cs, rest)

/-- A basic string behind its opening quote. -/
def readBasic : List Char → Option (Scanned (List Char))
  | [] => none
  | '"' :: rest => some ([], rest)
  | '\\' :: 'u' :: a :: b :: c :: d :: rest => do push (← codePoint? [a, b, c, d]) (readBasic rest)
  | '\\' :: 'U' :: a :: b :: c :: d :: e :: f :: g :: h :: rest => do
    push (← codePoint? [a, b, c, d, e, f, g, h]) (readBasic rest)
  | '\\' :: c :: rest => do push (← escape? c) (readBasic rest)
  | c :: rest => if isPlain c then push c (readBasic rest) else none

/-- A literal string behind its opening quote. -/
def readLiteral : List Char → Option (Scanned (List Char))
  | [] => none
  | '\'' :: rest => some ([], rest)
  | c :: rest => if isPlain c then push c (readLiteral rest) else none

/-- A basic string of several lines. Behind a backslash at the end of a line all blanks and line
ends are left out, up to the next other character: that is `folding`. Up to two quotes may stand
before the closing ones. -/
def readBasicLines (folding : Bool) : List Char → Option (Scanned (List Char))
  | [] => none
  | '"' :: '"' :: '"' :: '"' :: '"' :: rest => some (['"', '"'], rest)
  | '"' :: '"' :: '"' :: '"' :: rest => some (['"'], rest)
  | '"' :: '"' :: '"' :: rest => some ([], rest)
  | '\\' :: 'u' :: a :: b :: c :: d :: rest => do
    push (← codePoint? [a, b, c, d]) (readBasicLines false rest)
  | '\\' :: 'U' :: a :: b :: c :: d :: e :: f :: g :: h :: rest => do
    push (← codePoint? [a, b, c, d, e, f, g, h]) (readBasicLines false rest)
  | '\\' :: c :: rest =>
    if endsLine (c :: rest) then readBasicLines true (c :: rest)
    else do push (← escape? c) (readBasicLines false rest)
  | '\r' :: '\n' :: rest =>
    if folding then readBasicLines true rest else push '\n' (readBasicLines false rest)
  | c :: rest =>
    if folding ∧ (isSpace c ∨ c = '\n') then readBasicLines true rest
    else if isPlain c ∨ c = '\n' then push c (readBasicLines false rest)
    else none

/-- A literal string of several lines. -/
def readLiteralLines : List Char → Option (Scanned (List Char))
  | [] => none
  | '\'' :: '\'' :: '\'' :: '\'' :: '\'' :: rest => some (['\'', '\''], rest)
  | '\'' :: '\'' :: '\'' :: '\'' :: rest => some (['\''], rest)
  | '\'' :: '\'' :: '\'' :: rest => some ([], rest)
  | '\r' :: '\n' :: rest => push '\n' (readLiteralLines rest)
  | c :: rest => if isPlain c ∨ c = '\n' then push c (readLiteralLines rest) else none

/-- Drops a line end at the start. -/
def dropLineEnd : List Char → List Char
  | '\n' :: rest => rest
  | '\r' :: '\n' :: rest => rest
  | cs => cs

/-- A string of any kind. -/
def readString (cs : List Char) : Option (Scanned String) :=
  (contents cs).map fun (text, rest) => (String.ofList text, rest)
where
  contents : List Char → Option (Scanned (List Char))
    | '"' :: '"' :: '"' :: rest => readBasicLines false (dropLineEnd rest)
    | '\'' :: '\'' :: '\'' :: rest => readLiteralLines (dropLineEnd rest)
    | '"' :: rest => readBasic rest
    | '\'' :: rest => readLiteral rest
    | _ => none

/-! ### Numbers -/

/-- Further digits, of which single ones may follow an underscore. -/
def moreDigits (isDigit : Char → Bool) : List Char → List Char × List Char
  | '_' :: c :: rest =>
    if isDigit c then
      let (digits, rest) := moreDigits isDigit rest
      (c :: digits, rest)
    else ([], '_' :: c :: rest)
  | c :: rest =>
    if isDigit c then
      let (digits, rest) := moreDigits isDigit rest
      (c :: digits, rest)
    else ([], c :: rest)
  | [] => ([], [])

/-- At least one digit. -/
def readDigits (isDigit : Char → Bool) : List Char → Option (Scanned (List Char))
  | c :: rest =>
    if isDigit c then
      let (digits, rest) := moreDigits isDigit rest
      some (c :: digits, rest)
    else none
  | [] => none

/-- Decimal digits without a leading zero. -/
def readWhole : List Char → Option (Scanned (List Char))
  | '0' :: rest => some (['0'], rest)
  | cs => readDigits isDigit cs

/-- A sign: true for a minus. -/
def readSign : List Char → Bool × List Char
  | '-' :: rest => (true, rest)
  | '+' :: rest => (false, rest)
  | cs => (false, cs)

/-- An integer of 64 bits. -/
def integer? (n : Int) : Option Value :=
  if -9223372036854775808 ≤ n ∧ n ≤ 9223372036854775807 then some (.integer n) else none

/-- The digits of a fraction behind its point. -/
def readFraction : List Char → Option (Scanned (Option (List Char)))
  | '.' :: rest => do
    let (digits, rest) ← readDigits isDigit rest
    some (some digits, rest)
  | cs => some (none, cs)

/-- An exponent. -/
def readExponent : List Char → Option (Scanned (Option Int))
  | c :: rest =>
    if c = 'e' ∨ c = 'E' then do
      let (negative, rest) := readSign rest
      let (digits, rest) ← readDigits isDigit rest
      let n : Int := natural digits
      some (some (if negative then -n else n), rest)
    else some (none, c :: rest)
  | [] => some (none, [])

/-- A decimal integer, or a real number if a fraction or an exponent follows. A positive number
beyond the greatest double is refused. -/
def readDecimal (cs : List Char) : Option (Scanned Value) := do
  let (negative, cs) := readSign cs
  let (whole, cs) ← readWhole cs
  let (fraction, cs) ← readFraction cs
  let (exponent, cs) ← readExponent cs
  if fraction.isNone ∧ exponent.isNone then
    let n : Int := natural whole
    some (← integer? (if negative then -n else n), cs)
  else
    let behind := fraction.getD []
    let power := exponent.getD 0 - behind.length
    let x := Binary64.ofDecimal negative (natural (whole ++ behind)) power
    if x = .infinity false then none else some (.real x, cs)

/-- An integer in another base behind its mark. -/
def readBase (base : Nat) (cs : List Char) : Option (Scanned Value) := do
  let isDigit (c : Char) : Bool := match hexDigit? c with
    | some d => d < base
    | none => false
  let (digits, cs) ← readDigits isDigit cs
  let n := digits.foldl (fun n c => base * n + (hexDigit? c).getD 0) 0
  some (← integer? n, cs)

/-- An infinity or a NaN, with its sign. -/
def readSpecial (cs : List Char) : Option (Scanned Value) :=
  let (negative, cs) := readSign cs
  match afterWord? "inf".toList cs, afterWord? "nan".toList cs with
  | some rest, _ => some (.real (.infinity negative), rest)
  | none, some rest => some (.real (.nan negative), rest)
  | none, none => none

/-! ### Dates and times -/

/-- Exactly `count` digits. -/
def readField (count : Nat) (cs : List Char) : Option (Scanned Nat) :=
  let run := cs.take count
  if run.length = count ∧ run.all isDigit then some (natural run, cs.drop count) else none

def readMark (mark : Char) : List Char → Option (List Char)
  | c :: rest => if c = mark then some rest else none
  | [] => none

/-- A date that exists. -/
def readDate (cs : List Char) : Option (Scanned Unit) := do
  let (year, cs) ← readField 4 cs
  let cs ← readMark '-' cs
  let (month, cs) ← readField 2 cs
  let cs ← readMark '-' cs
  let (day, cs) ← readField 2 cs
  if (⟨year, month, day⟩ : Date).Exists then some ((), cs) else none

/-- Hour and minute. -/
def readMinute (cs : List Char) : Option (Scanned Unit) := do
  let (hour, cs) ← readField 2 cs
  let cs ← readMark ':' cs
  let (minute, cs) ← readField 2 cs
  if hour < 24 ∧ minute < 60 then some ((), cs) else none

/-- A time of day with seconds. -/
def readTime (cs : List Char) : Option (Scanned Unit) := do
  let ((), cs) ← readMinute cs
  let cs ← readMark ':' cs
  let (second, cs) ← readField 2 cs
  if 60 < second then none
  else
    match cs with
    | '.' :: rest =>
      let run := rest.takeWhile isDigit
      if run.isEmpty then none else some ((), rest.drop run.length)
    | cs => some ((), cs)

/-- A distance from universal time, if there is one. -/
def readOffset : List Char → Option (Scanned Unit)
  | 'Z' :: rest => some ((), rest)
  | 'z' :: rest => some ((), rest)
  | '+' :: rest => readMinute rest
  | '-' :: rest => readMinute rest
  | cs => some ((), cs)

/-- A date, a date with a time, or a time. -/
def readMoment (cs : List Char) : Option (Scanned Value) := do
  match readDate cs with
  | none => (readTime cs).map fun ((), rest) => (.moment, rest)
  | some ((), cs) =>
    match cs with
    | c :: rest =>
      if c = 'T' ∨ c = 't' ∨ c = ' ' then
        match readTime rest with
        | some ((), rest) => (readOffset rest).map fun ((), rest) => (.moment, rest)
        | none => some (.moment, cs)
      else some (.moment, cs)
    | [] => some (.moment, [])

/-- The text starts like a date or a time. -/
def looksLikeMoment (cs : List Char) : Bool :=
  ((cs.take 4).all isDigit ∧ cs[4]? = some '-') ∨ ((cs.take 2).all isDigit ∧ cs[2]? = some ':')

/-! ### All of them -/

/-- A value that is not made of others. -/
def readScalar (cs : List Char) : Option (Scanned Value) :=
  match cs with
  | '"' :: _ => (readString cs).map fun (s, rest) => (.text s, rest)
  | '\'' :: _ => (readString cs).map fun (s, rest) => (.text s, rest)
  | 't' :: _ => (afterWord? "true".toList cs).map fun rest => (.truth true, rest)
  | 'f' :: _ => (afterWord? "false".toList cs).map fun rest => (.truth false, rest)
  | '0' :: 'x' :: rest => readBase 16 rest
  | '0' :: 'o' :: rest => readBase 8 rest
  | '0' :: 'b' :: rest => readBase 2 rest
  | cs =>
    if looksLikeMoment cs then readMoment cs
    else
      match readSpecial cs with
      | some read => some read
      | none => readDecimal cs

end HybridStorage.Toml
