import CallWatch.Number.Integer
import CallWatch.Text.Cut
import CallWatch.Text.Hex

/-! Internet addresses of version 6: eight groups of four hexadecimal digits. Two colons stand for
the groups of zeros that are left out, and the last two groups may be written as an address of
version 4. -/

namespace CallWatch

/-- An address by its eight groups of 16 bits. -/
structure Ipv6 where
  groups : List UInt16
  deriving DecidableEq

namespace Ipv6

/-- A group: one to four hexadecimal digits. -/
def group? (digits : List Char) : Option UInt16 :=
  if digits.length = 0 ∨ 4 < digits.length then none
  else (Hex.number? digits).map UInt16.ofNat

/-- A decimal number of eight bits without needless zeros. -/
def byte? (digits : List Char) : Option Nat :=
  match (IntegerRange.unsigned 8).read digits with
  | .ok n => if decimal n.toNat = digits then some n.toNat else none
  | .error _ => none

/-- The two groups of an address of version 4. -/
def dotted? (text : List Char) : Option (List UInt16) := do
  let [a, b, c, d] ← (Text.pieces (· = '.') text).mapM byte? | none
  return [UInt16.ofNat (0x100 * a + b), UInt16.ofNat (0x100 * c + d)]

/-- The groups at the end of an address. -/
def ending? : List (List Char) → Option (List UInt16)
  | [] => some []
  | [last] => if last.contains '.' then dotted? last else (group? last).map ([·])
  | next :: rest => do return (← group? next) :: (← ending? rest)

/-- The texts between the colons of a part, of which an empty part has none. -/
def groupTexts (part : List Char) : List (List Char) :=
  if part = [] then [] else Text.pieces (· = ':') part

/-- The texts before and behind the first two colons in a row, if there are such. -/
def cutAtGap? : List Char → Option (List Char × List Char)
  | ':' :: ':' :: rest => some ([], rest)
  | c :: rest => (cutAtGap? rest).map fun (front, back) => (c :: front, back)
  | [] => none

/-- The address that a text is, if it is one. Two colons stand for at least one group. -/
def read? (text : List Char) : Option Ipv6 :=
  match cutAtGap? text with
  | none => do
    let groups ← ending? (groupTexts text)
    if groups.length = 8 then return ⟨groups⟩ else none
  | some (front, back) => do
    let before ← (groupTexts front).mapM group?
    let behind ← ending? (groupTexts back)
    let left := before.length + behind.length
    if left < 8 then return ⟨before ++ List.replicate (8 - left) 0 ++ behind⟩ else none

/-- The longest run of zeros by where it begins and its length, the first of those that are equally
long. -/
def longestZeros (groups : List UInt16) : Nat × Nat :=
  (List.range groups.length).foldl
    (fun best start =>
      let length := ((groups.drop start).takeWhile (· = 0)).length
      if best.2 < length then (start, length) else best)
    (0, 0)

def groupsText (groups : List UInt16) : List Char :=
  [':'].intercalate (groups.map fun g => Nat.toDigits 16 g.toNat)

/-- An address as it is shown. A run of at least two zeros is left out. -/
def text (a : Ipv6) : List Char :=
  let (start, length) := longestZeros a.groups
  if length < 2 then groupsText a.groups
  else groupsText (a.groups.take start) ++ [':', ':'] ++ groupsText (a.groups.drop (start + length))

end Ipv6

end CallWatch
