import CallWatch.Number.Binary64

/-! The shortest decimal that reads back as a given double: the fewest digits for which a decimal
lies among the reals that round to the double, and of such decimals the nearest. All arithmetic is
exact. -/

namespace CallWatch

/-- The decimal `digits * 10 ^ exponent`. -/
structure Decimal where
  digits : Nat
  exponent : Int
  deriving DecidableEq

/-- The reals that round to a double, in units of `2 ^ exponent`. The ends belong to it if it is
closed. -/
structure Rounding where
  low : Nat
  centre : Nat
  high : Nat
  closed : Bool
  exponent : Int

namespace Rounding

/-- The reals that round to `mantissa * 2 ^ exponent`. The gap below is half as wide where the
mantissa is the least of its binade. -/
def ofMantissa (mantissa : Nat) (exponent : Int) : Rounding where
  low := 4 * mantissa - if mantissa = Nat.pow 2 52 ∧ -1074 < exponent then 1 else 2
  centre := 4 * mantissa
  high := 4 * mantissa + 2
  closed := mantissa % 2 = 0
  exponent := exponent - 2

/-- The factor that takes the interval's bounds to the units in which it and the multiples of
`10 ^ k` are both integers. -/
def boundFactor (r : Rounding) (k : Int) : Nat :=
  Nat.pow 2 r.exponent.toNat * Nat.pow 10 (-k).toNat

def gridFactor (r : Rounding) (k : Int) : Nat :=
  Nat.pow 10 k.toNat * Nat.pow 2 (-r.exponent).toNat

/-- Whether `d * 10 ^ k` rounds to the double. -/
def contains (r : Rounding) (k : Int) (d : Nat) : Bool :=
  let bound := r.boundFactor k
  let point := d * r.gridFactor k
  if r.closed then r.low * bound ≤ point ∧ point ≤ r.high * bound
  else r.low * bound < point ∧ point < r.high * bound

/-- The largest `d` such that `d * 10 ^ k` is not above the double. -/
def floor (r : Rounding) (k : Int) : Nat :=
  r.centre * r.boundFactor k / r.gridFactor k

/-- The multiple of `10 ^ k` that rounds to the double, the nearer where its two neighbours both
do, and the even one of two that are equally near. -/
def onGrid? (r : Rounding) (k : Int) : Option Nat :=
  let down := r.floor k
  match r.contains k down, r.contains k (down + 1) with
  | true, false => some down
  | false, true => some (down + 1)
  | false, false => none
  | true, true =>
    let below := r.centre * r.boundFactor k - down * r.gridFactor k
    let above := (down + 1) * r.gridFactor k - r.centre * r.boundFactor k
    if below < above ∨ below = above ∧ down % 2 = 0 then some down else some (down + 1)

/-- The power of ten of the double's first digit. No positive double is below `10 ^ -342`. -/
def magnitude (r : Rounding) : Int :=
  (Nat.toDigits 10 (r.floor (-342))).length - 343

/-- The first of the grids with one to seventeen digits that has a hit. -/
def shortest (r : Rounding) : Decimal :=
  let grid (n : Nat) : Int := r.magnitude - n
  ((List.range 17).findSome? fun n => (r.onGrid? (grid n)).map (⟨·, grid n⟩)).getD
    ⟨r.floor (grid 16), grid 16⟩

end Rounding

/-- How decimals are written: those whose first digit stands at a power of ten between `least` and
`greatest` positionally with at least one decimal place, all others with an exponent and its
sign. -/
structure DecimalStyle where
  least : Int
  greatest : Int

namespace Decimal

/-- The digits without the zeros at their end, or a single zero. -/
def significant (digits : Nat) : List Char :=
  match ((Nat.toDigits 10 digits).reverse.dropWhile (· = '0')).reverse with
  | [] => ['0']
  | ds => ds

/-- A positional number whose first digit stands at the power `point` of ten. -/
def positional (digits : List Char) (point : Int) : List Char :=
  if point < 0 then "0.".toList ++ List.replicate (-point - 1).toNat '0' ++ digits
  else
    let whole := point.toNat + 1
    let padded := digits ++ List.replicate (whole + 1 - digits.length) '0'
    padded.take whole ++ '.' :: padded.drop whole

def exponential (digits : List Char) (point : Int) : List Char :=
  let places := match digits.drop 1 with
    | [] => []
    | rest => '.' :: rest
  digits.take 1 ++ places ++ 'e' :: (if point < 0 then '-' else '+') ::
    Nat.toDigits 10 point.natAbs

def write (style : DecimalStyle) (d : Decimal) : List Char :=
  let point := d.exponent + (Nat.toDigits 10 d.digits).length - 1
  if style.least ≤ point ∧ point ≤ style.greatest then positional (significant d.digits) point
  else exponential (significant d.digits) point

end Decimal

/-- The shortest text of a finite double; there is none for the others. -/
def Binary64.writeShortest? (style : DecimalStyle) : Binary64 → Option (List Char)
  | .nan | .infinite _ => none
  | .finite negative m e =>
    if m = 0 then some (sign negative ++ "0.0".toList)
    else some (sign negative ++ (Rounding.ofMantissa m e).shortest.write style)

end CallWatch
