import HybridStorage.Quantity

/-!
# Decimal integers

Writing natural numbers and integers, and reading 32-bit integers. The reader names the first
problem it meets from the left; at one position a character that is no digit comes before an
overflow.
-/

namespace HybridStorage.Text

/-- The character of a digit below ten. -/
def digitChar (d : Nat) : Char := Char.ofNat (48 + d)

def digit? (c : Char) : Option Nat :=
  if '0' ≤ c ∧ c ≤ '9' then some (c.toNat - 48) else none

def isDigit (c : Char) : Bool := (digit? c).isSome

/-- The decimal digits of a number, without leading zeros. -/
def digits (n : Nat) : List Char :=
  if n < 10 then [digitChar n] else digits (n / 10) ++ [digitChar (n % 10)]

/-- The digits, with zeros in front up to a width. -/
def padded (width n : Nat) : List Char :=
  List.replicate (width - (digits n).length) '0' ++ digits n

def signed (n : Int) : List Char :=
  if n < 0 then '-' :: digits n.natAbs else digits n.natAbs

def ofInt (n : Int) : String := String.ofList (signed n)

def natural (cs : List Char) : Nat :=
  cs.foldl (fun n c => 10 * n + (c.toNat - 48)) 0

/-- Spaces in front, up to a width. -/
def alignRight (width : Nat) (s : String) : String :=
  String.ofList (List.replicate (width - s.length) ' ') ++ s

/-- Spaces behind, up to a width. -/
def alignLeft (width : Nat) (s : String) : String :=
  s ++ String.ofList (List.replicate (width - s.length) ' ')

/-- Why a text is not a 32-bit integer. -/
inductive IntegerProblem where
  | empty
  | invalidDigit
  | tooLarge
  | tooSmall
  deriving DecidableEq, Repr

def IntegerProblem.message : IntegerProblem → String
  | .empty => "cannot parse integer from empty string"
  | .invalidDigit => "invalid digit found in string"
  | .tooLarge => "number too large to fit in target type"
  | .tooSmall => "number too small to fit in target type"

/-- Reads digits onto `total`, away from zero in the direction of `sign`. -/
def readDigits (sign total : Int) : List Char → Except IntegerProblem Int
  | [] => .ok total
  | c :: rest =>
    match digit? c with
    | none => .error .invalidDigit
    | some d =>
      let next := 10 * total + sign * d
      if Reading.highest < next then .error .tooLarge
      else if next < Reading.lowest then .error .tooSmall
      else readDigits sign next rest

/-- Reads an optional sign and ASCII digits. -/
def readInt32 (cs : List Char) : Except IntegerProblem Int32 :=
  match cs with
  | [] => .error .empty
  | ['+'] => .error .invalidDigit
  | ['-'] => .error .invalidDigit
  | '+' :: rest => (readDigits 1 0 rest).map Int32.ofInt
  | '-' :: rest => (readDigits (-1) 0 rest).map Int32.ofInt
  | cs => (readDigits 1 0 cs).map Int32.ofInt

end HybridStorage.Text
