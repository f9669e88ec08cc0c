/-! Texts as UTF-8. Bytes are read by an automaton that gives a character for each well-formed
sequence and nothing for each longest beginning of one that is cut off, so a reader can refuse such
bytes or put a replacement character in their place. -/

namespace CallWatch.Utf8

def encode (text : List Char) : List UInt8 :=
  text.flatMap String.utf8EncodeChar

def size (text : List Char) : Nat :=
  (encode text).length

/-- A sequence that is not complete: how many bytes come after the next one, the bounds of the next
one, and the bits read so far. -/
structure Open where
  later : Nat
  low : UInt8
  high : UInt8
  bits : Nat

/-- What a byte outside any sequence gives: a character, an open sequence, or a fault. -/
def start (b : UInt8) : List (Option Char) × Option Open :=
  if b < 0x80 then ([some (Char.ofNat b.toNat)], none)
  else if b < 0xC2 then ([none], none)
  else if b < 0xE0 then ([], some ⟨0, 0x80, 0xBF, b.toNat - 0xC0⟩)
  else if b < 0xF0 then
    ([], some ⟨1, if b = 0xE0 then 0xA0 else 0x80, if b = 0xED then 0x9F else 0xBF,
      b.toNat - 0xE0⟩)
  else if b < 0xF5 then
    ([], some ⟨2, if b = 0xF0 then 0x90 else 0x80, if b = 0xF4 then 0x8F else 0xBF,
      b.toNat - 0xF0⟩)
  else ([none], none)

/-- One byte. A byte that cannot continue the open sequence ends it as a fault and starts anew. -/
def step : Option Open → UInt8 → List (Option Char) × Option Open
  | none, b => start b
  | some o, b =>
    if o.low ≤ b ∧ b ≤ o.high then
      let bits := 64 * o.bits + (b.toNat - 0x80)
      if o.later = 0 then ([some (Char.ofNat bits)], none)
      else ([], some ⟨o.later - 1, 0x80, 0xBF, bits⟩)
    else
      let (given, next) := start b
      (none :: given, next)

/-- The characters of the bytes in order, with `none` for each fault. -/
def pieces : Option Open → List UInt8 → List (Option Char)
  | none, [] => []
  | some _, [] => [none]
  | state, b :: rest => (step state b).1 ++ pieces (step state b).2 rest

/-- The text of the bytes, with U+FFFD for each fault. -/
def decodeLossy (bytes : List UInt8) : List Char :=
  (pieces none bytes).map (·.getD '\uFFFD')

/-- The text of the bytes, if they are well formed. -/
def decode? (bytes : List UInt8) : Option (List Char) :=
  (pieces none bytes).mapM id

end CallWatch.Utf8
