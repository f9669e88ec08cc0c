import CallWatch.Text.Direction
import CallWatch.Text.Joining
import CallWatch.Text.MarkClass
import CallWatch.Text.SpacingMark

/-! What a label of a domain name must be so that it looks like no other: it begins with no mark, an
invisible joiner stands only where it shows, and a label in letters that are written to the left
reads the same wherever it stands. -/

namespace CallWatch.Label

def beginsWithMark : List Char → Bool
  | [] => false
  | c :: _ => Text.inRanges Text.combiningRanges c || Text.inRanges Text.spacingMarkRanges c

/-- Whether a character is a joiner, which shows only by the shape of its neighbours. -/
def isJoiner (c : Char) : Bool :=
  c = '\u200C' || c = '\u200D'

def firstLetter? (text : List Char) : Option Char :=
  (text.dropWhile fun c => Text.inRanges Text.combiningRanges c && !isJoiner c).head?

/-- Whether a joiner shows between the text before it, which is given from its end, and the text
behind: after a mark that takes the vowel from a letter, and a joiner that keeps letters apart also
between two that would be joined. -/
def joinerShows (joiner : Char) (before behind : List Char) : Bool :=
  (before.head?.map Text.markClass) == some Text.vowelKiller ||
    joiner = '\u200C' &&
      ((firstLetter? before).any fun c =>
        Text.inRanges Text.bothJoiningRanges c || Text.inRanges Text.aheadJoiningRanges c) &&
      ((firstLetter? behind).any fun c =>
        Text.inRanges Text.bothJoiningRanges c || Text.inRanges Text.backJoiningRanges c)

/-- Whether each joiner of a text shows, where the text before is given from its end. -/
def joinersShow (before : List Char) : List Char → Bool
  | [] => true
  | c :: behind => (!isJoiner c || joinerShows c before behind) && joinersShow (c :: before) behind

/-- Whether a character is written to the left, or is a digit of Arabic letters. -/
def turns (c : Char) : Bool :=
  Text.direction c = .leftward || Text.direction c = .arabicDigit

/-- Whether a label reads the same beside labels of either direction. The directions are those of its
characters; marks at its end follow what is before them. -/
def keepsDirection (label : List Char) : Bool :=
  let directions := label.map Text.direction
  let last := (directions.reverse.dropWhile (· = .mark)).head?
  match directions.head? with
  | none => true
  | some .rightward =>
    directions.all (fun d => d ≠ .leftward ∧ d ≠ .arabicDigit) &&
      (last = some .rightward || last = some .digit)
  | some .leftward =>
    directions.all (· ≠ .rightward) &&
      (last = some .leftward || last = some .arabicDigit || last = some .digit) &&
      !(directions.contains .digit && directions.contains .arabicDigit)
  | _ => false

/-- Whether the labels of a name can stand beside each other. -/
def fitTogether (labels : List (List Char)) : Bool :=
  !labels.any (·.any turns) || labels.all keepsDirection

end CallWatch.Label
