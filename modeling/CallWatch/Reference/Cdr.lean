import CallWatch.Text.Utf8

/-! The common data representation: integers in either byte order, aligned to their own size from
the start of an encapsulation, and strings and octet sequences behind their length. A reader is a
position and the bytes that are left; a writer is the bytes so far. -/

namespace CallWatch.Cdr

inductive ByteOrder
  | big
  | little
  deriving DecidableEq

/-- The number that bytes in the given order stand for. -/
def ByteOrder.number (order : ByteOrder) (bytes : List UInt8) : Nat :=
  let mostSignificantFirst := match order with
    | .big => bytes
    | .little => bytes.reverse
  mostSignificantFirst.foldl (fun value b => 256 * value + b.toNat) 0

/-- Where reading stands: the byte order, the number of bytes behind, and the bytes ahead. -/
structure Reader where
  order : ByteOrder
  position : Nat
  rest : List UInt8
  deriving DecidableEq

namespace Reader

/-- The start of an encapsulation, whose first byte tells the order of the others. -/
def ofEncapsulation? : List UInt8 → Option Reader
  | [] => none
  | flag :: rest => some ⟨if flag % 2 = 1 then .little else .big, 1, rest⟩

/-- The distance from a position to the next multiple of `n`. -/
def gap (n position : Nat) : Nat :=
  (n - position % n) % n

def take? (n : Nat) (r : Reader) : Option (List UInt8 × Reader) :=
  if n ≤ r.rest.length then
    some (r.rest.take n, { r with position := r.position + n, rest := r.rest.drop n })
  else none

def octet? (r : Reader) : Option (UInt8 × Reader) :=
  match r.rest with
  | [] => none
  | b :: rest => some (b, { r with position := r.position + 1, rest })

/-- The next number of `n` bytes, behind the padding that aligns it. -/
def number? (n : Nat) (r : Reader) : Option (Nat × Reader) := do
  let (_, aligned) ← r.take? (gap n r.position)
  let (bytes, next) ← aligned.take? n
  return (r.order.number bytes, next)

def ushort? (r : Reader) : Option (UInt16 × Reader) := do
  let (value, next) ← r.number? 2
  return (UInt16.ofNat value, next)

def ulong? (r : Reader) : Option (UInt32 × Reader) := do
  let (value, next) ← r.number? 4
  return (UInt32.ofNat value, next)

def octets? (r : Reader) : Option (List UInt8 × Reader) := do
  let (length, next) ← r.ulong?
  next.take? length.toNat

/-- The next string, without one zero byte at its end. -/
def string? (r : Reader) : Option (String × Reader) := do
  let (bytes, next) ← r.octets?
  let text := if bytes.getLast? = some 0 then bytes.dropLast else bytes
  return (String.ofList (Utf8.decodeLossy text), next)

end Reader

/-- The `n` bytes of a number, most significant first. -/
def bigEndian : Nat → Nat → List UInt8
  | 0, _ => []
  | n + 1, value => bigEndian n (value / 256) ++ [UInt8.ofNat value]

/-- What a writer has written so far, most significant bytes first. -/
abbrev Writer := List UInt8

namespace Writer

/-- The start of an encapsulation in big-endian order. -/
def encapsulation : Writer :=
  [0]

def raw (bytes : List UInt8) (w : Writer) : Writer :=
  w ++ bytes

/-- A number of `n` bytes, behind the padding that aligns it. -/
def number (n value : Nat) (w : Writer) : Writer :=
  w ++ List.replicate (Reader.gap n w.length) 0 ++ bigEndian n value

def ushort (value : UInt16) (w : Writer) : Writer :=
  w.number 2 value.toNat

def ulong (value : UInt32) (w : Writer) : Writer :=
  w.number 4 value.toNat

def octets (bytes : List UInt8) (w : Writer) : Writer :=
  (w.ulong (UInt32.ofNat bytes.length)).raw bytes

/-- A string behind its length, with a zero byte at its end. -/
def string (text : String) (w : Writer) : Writer :=
  w.octets (Utf8.encode text.toList ++ [0])

end Writer

end CallWatch.Cdr
