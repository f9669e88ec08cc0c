import CallWatch.Number.Integer
import CallWatch.Text.Cut
import CallWatch.Text.Hex

/-! Internet addresses of version 4. A host whose last part is a number is read as an address of one
to four numbers, of which the last one fills what the others leave, and is shown as four decimal
numbers. -/

namespace CallWatch

structure Ipv4 where
  address : UInt32
  deriving DecidableEq

namespace Ipv4

/-- The number that digits below `base` stand for, if there are such digits only. -/
def digits? (base : Nat) (digits : List Char) : Option Nat :=
  digits.foldl
    (fun value c => do
      let d ← decimalDigit? c
      if d < base then return base * (← value) + d else none)
    (some 0)

/-- A number: hexadecimal behind `0x`, octal behind a zero, else decimal. -/
def number? : List Char → Option Nat
  | [] => none
  | '0' :: 'x' :: digits => Hex.number? digits
  | '0' :: 'X' :: digits => Hex.number? digits
  | '0' :: d :: digits => digits? 8 (d :: digits)
  | digits => digits? 10 digits

/-- The parts of a host between its dots, without the empty one behind a dot at the end. -/
def parts (host : List Char) : List (List Char) :=
  let all := Text.pieces (· = '.') host
  if 1 < all.length ∧ all.getLast? = some [] then all.dropLast else all

/-- Whether a host is meant as an address: its last part has only decimal digits, or is a number. -/
def isMeant (host : List Char) : Bool :=
  match (parts host).getLast? with
  | none | some [] => false
  | some last => last.all Char.isDigit || (number? last).isSome

/-- The bits of the parts before the last one, each of eight. -/
def leading (numbers : List Nat) : Nat :=
  numbers.foldr (fun n rest => (n * 0x1000000) + rest / 0x100) 0

/-- The address that a host is, if it is one. -/
def read? (host : List Char) : Option Ipv4 := do
  let numbers ← (parts host).mapM number?
  let front := numbers.dropLast
  let last ← numbers.getLast?
  if front.length ≤ 3 ∧ front.all (· ≤ 0xFF) ∧ last < Nat.pow 0x100 (4 - front.length) then
    some ⟨UInt32.ofNat (leading front + last)⟩
  else none

def bytes (a : Ipv4) : List Nat :=
  [0x1000000, 0x10000, 0x100, 1].map fun unit => a.address.toNat / unit % 0x100

def text (a : Ipv4) : List Char :=
  ['.'].intercalate (a.bytes.map decimal)

end Ipv4

end CallWatch
