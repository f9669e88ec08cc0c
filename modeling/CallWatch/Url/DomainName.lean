import CallWatch.Text.CaseFold
import CallWatch.Text.Composed
import CallWatch.Text.Unprintable
import CallWatch.Url.Label
import CallWatch.Url.Punycode

/-! Domain names as they are looked up: labels of small ASCII characters with dots between them. A
label with other characters is written in Punycode behind `xn--`. -/

namespace CallWatch.DomainName

/-- Characters that leave no trace in a name: they hint at how a text is set, choose a variant, or
fill a place with nothing. -/
def silentRanges : List (Nat × Nat) :=
  [(0xAD, 0xAD), (0x34F, 0x34F), (0x115F, 0x1160), (0x17B4, 0x17B5), (0x180B, 0x180F),
    (0x200B, 0x200B), (0x2060, 0x2060), (0x2064, 0x2064), (0x3164, 0x3164), (0xFE00, 0xFE0F),
    (0xFEFF, 0xFEFF), (0xFFA0, 0xFFA0), (0x1BCA0, 0x1BCA3), (0xE0100, 0xE01EF)]

/-- Signs that describe or replace a character and may not stand in a name. -/
def stopgapRanges : List (Nat × Nat) :=
  [(0x2FF0, 0x2FFF), (0x31EF, 0x31EF), (0xFFFC, 0xFFFD)]

/-- Whether a character may not stand in a name. -/
def isBarred (c : Char) : Bool :=
  Text.inRanges Text.unprintableRanges c || Text.inRanges stopgapRanges c

/-- Whether a character stands between labels: a full stop, ideographic ones among them. -/
def isFullStop (c : Char) : Bool :=
  c = '.' || c = '\u3002' || c = '\uFF0E' || c = '\uFF61'

/-- A character as a name has it, if the name may have it: without case and as no variant, and a
silent one as nothing. The final sigma stays, and a variant of a text with a full stop is barred. -/
def fold? (c : Char) : Option (List Char) :=
  if c ≤ '\x7f' then some [c.toLower]
  else if Text.inRanges silentRanges c then some []
  else if isFullStop c then some ['.']
  else if Label.isJoiner c || c = 'ς' then some [c]
  else if isBarred c then none
  else
    let plain := Text.plain c
    if plain.any isFullStop then none else some (plain.map Text.foldCase)

def foldAll? (text : List Char) : Option (List Char) :=
  (text.mapM fold?).map fun folded => Text.compose folded.flatten

def isAscii (text : List Char) : Bool :=
  text.all (· ≤ '\x7f')

def punycodeMark : List Char := "xn--".toList

/-- The label that a text behind the mark is Punycode for. It must need Punycode, and be as a name has
it. -/
def decode? (coded : List Char) : Option (List Char) := do
  let label ← Punycode.decode? coded
  if !isAscii label && foldAll? label = some label then some label else none

/-- A label in its own letters, if it is one. -/
def label? (text : List Char) : Option (List Char) := do
  let label ← match Text.behind? punycodeMark text with
    | some coded => if isAscii text then decode? coded else none
    | none => some text
  if !Label.beginsWithMark label && Label.joinersShow [] label then some label else none

/-- A label as it is looked up. -/
def lookedUp (label : List Char) : List Char :=
  if isAscii label then label else punycodeMark ++ Punycode.encode label

/-- Whether a character may stand in a name as it is looked up. -/
def isNameChar (c : Char) : Bool :=
  ' ' < c && c < '\x7f' && !"%#/:<>?@[\\]^|".toList.contains c

/-- A text as a domain name that can be looked up, if it is one. -/
def read? (text : List Char) : Option (List Char) := do
  let labels ← (Text.pieces (· = '.') (← foldAll? text)).mapM label?
  let name := ['.'].intercalate (labels.map lookedUp)
  if Label.fitTogether labels ∧ name ≠ [] ∧ name.all isNameChar then some name else none

end CallWatch.DomainName
