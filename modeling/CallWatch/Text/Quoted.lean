import CallWatch.Text.Blank
import CallWatch.Text.Combining
import CallWatch.Text.Unprintable

/-! Quoted texts, as error messages show the values of settings: between quotes, on one line, with
every character that would not show as itself written as an escape. -/

namespace CallWatch.Text

def codeEscape (c : Char) : List Char :=
  "\\u\x7b".toList ++ Nat.toDigits 16 c.toNat ++ ['\x7d']

/-- Whether a character would not show as itself: it joins its neighbour, it fills a place with
nothing, or it cannot be printed. -/
def isHidden (c : Char) : Bool :=
  inRanges combiningRanges c || inRanges fillerRanges c || inRanges unprintableRanges c

/-- A character inside quotes: the short escapes first, then the code of a character that would not
show as itself. -/
def quoteChar (c : Char) : List Char :=
  if c = '\x00' then ['\\', '0']
  else if c = '\t' then ['\\', 't']
  else if c = '\r' then ['\\', 'r']
  else if c = '\n' then ['\\', 'n']
  else if c = '"' ∨ c = '\\' then ['\\', c]
  else if ' ' ≤ c ∧ c ≤ '~' then [c]
  else if isHidden c then codeEscape c
  else [c]

def quote (text : List Char) : List Char :=
  '"' :: text.flatMap quoteChar ++ ['"']

end CallWatch.Text
