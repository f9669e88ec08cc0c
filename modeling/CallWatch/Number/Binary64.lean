/-! Double-precision numbers by their bits: a sign, and for a finite number a mantissa and a power
of two. -/

namespace CallWatch

/-- What the 64 bits of a double stand for. A finite one is `mantissa * 2 ^ exponent`. -/
inductive Binary64
  | nan
  | infinite (negative : Bool)
  | finite (negative : Bool) (mantissa : Nat) (exponent : Int)
  deriving DecidableEq

namespace Binary64

/-- The reading of the interchange format: one sign bit, eleven exponent bits, 52 mantissa bits. -/
def ofBits (bits : UInt64) : Binary64 :=
  let negative : Bool := bits.toNat / Nat.pow 2 63 = 1
  let exponent : Nat := bits.toNat / Nat.pow 2 52 % Nat.pow 2 11
  let fraction : Nat := bits.toNat % Nat.pow 2 52
  if exponent = Nat.pow 2 11 - 1 then
    if fraction = 0 then .infinite negative else .nan
  else if exponent = 0 then .finite negative fraction (-1074)
  else .finite negative (Nat.pow 2 52 + fraction) ((exponent : Int) - 1075)

def ofFloat (x : Float) : Binary64 :=
  ofBits x.toBits

/-- The sign of a number, shown only where it is negative. -/
def sign (negative : Bool) : List Char :=
  if negative then ['-'] else []

end Binary64

/-- The quotient rounded to the nearest integer, a half to the even neighbour. -/
def roundDiv (num den : Nat) : Nat :=
  let down := num / den
  let twice := 2 * (num % den)
  if twice < den then down
  else if den < twice then down + 1
  else if down % 2 = 0 then down
  else down + 1

/-- A number with a fixed number of decimal places, at least one. -/
def Binary64.writeFixed (places : Nat) : Binary64 → List Char
  | .nan => "NaN".toList
  | .infinite negative => sign negative ++ "inf".toList
  | .finite negative m e =>
    let scaled := roundDiv (m * Nat.pow 2 e.toNat * Nat.pow 10 places) (Nat.pow 2 (-e).toNat)
    let digits := Nat.toDigits 10 scaled
    let padded := List.replicate (places + 1 - digits.length) '0' ++ digits
    let whole := padded.length - places
    sign negative ++ padded.take whole ++ '.' :: padded.drop whole

end CallWatch
