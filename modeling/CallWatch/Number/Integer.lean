/-! Integers read from decimal text into a range. The text is read from the left, and the first
character that is no digit, or at which the value leaves the range, decides the error. -/

namespace CallWatch

/-- A range of integers, bounds included. -/
structure IntegerRange where
  low : Int
  high : Int

namespace IntegerRange

def unsigned (bits : Nat) : IntegerRange :=
  ⟨0, Nat.pow 2 bits - 1⟩

def signed (bits : Nat) : IntegerRange :=
  ⟨-Nat.pow 2 (bits - 1), Nat.pow 2 (bits - 1) - 1⟩

end IntegerRange

inductive IntegerError
  | empty
  | invalidDigit
  | tooLarge
  | tooSmall
  deriving DecidableEq

def IntegerError.message : IntegerError → String
  | .empty => "cannot parse integer from empty string"
  | .invalidDigit => "invalid digit found in string"
  | .tooLarge => "number too large to fit in target type"
  | .tooSmall => "number too small to fit in target type"

def decimalDigit? (c : Char) : Option Nat :=
  if '0' ≤ c ∧ c ≤ '9' then some (c.toNat - '0'.toNat) else none

namespace IntegerRange

/-- Digits that raise a value that must not pass the upper bound. -/
def readUp (range : IntegerRange) : Int → List Char → Except IntegerError Int
  | value, [] => .ok value
  | value, c :: rest =>
    match decimalDigit? c with
    | none => .error .invalidDigit
    | some d =>
      if range.high < 10 * value + d then .error .tooLarge else range.readUp (10 * value + d) rest

/-- Digits that lower a value that must not pass the lower bound. -/
def readDown (range : IntegerRange) : Int → List Char → Except IntegerError Int
  | value, [] => .ok value
  | value, c :: rest =>
    match decimalDigit? c with
    | none => .error .invalidDigit
    | some d =>
      if 10 * value - d < range.low then .error .tooSmall
      else range.readDown (10 * value - d) rest

/-- An integer of the range: digits behind an optional plus sign, or behind a minus sign where the
range has negative members. -/
def read (range : IntegerRange) : List Char → Except IntegerError Int
  | [] => .error .empty
  | ['+'] | ['-'] => .error .invalidDigit
  | '+' :: digits => range.readUp 0 digits
  | '-' :: digits => if range.low < 0 then range.readDown 0 digits else .error .invalidDigit
  | digits => range.readUp 0 digits

end IntegerRange

def readPort? (text : List Char) : Option UInt16 :=
  match (IntegerRange.unsigned 16).read text with
  | .ok port => some (UInt16.ofNat port.toNat)
  | .error _ => none

def decimal (n : Nat) : List Char :=
  Nat.toDigits 10 n

/-- The decimal digits of an integer, behind a minus sign if it is negative. -/
def decimalInt : Int → List Char
  | .ofNat n => decimal n
  | .negSucc n => '-' :: decimal (n + 1)

end CallWatch
