import CallWatch.Text.Composite
import CallWatch.Text.MarkClass
import CallWatch.Text.Variant

/-! Texts in composed form: the marks at each letter in order, and each letter in one character with
the marks for which there is a composite one. -/

namespace CallWatch.Text

/-- What a composite character is made of, and any other character itself. -/
def takeApart (c : Char) : List Char :=
  (spell? composites c).getD [c]

/-- The text that a variant stands for, with composite characters taken apart. Hangul syllables stay
whole. -/
def plain (c : Char) : List Char :=
  if c ≤ '\x7f' then [c] else (spell? variants c).getD (takeApart c)

/-- A character in front of a text whose marks are in order, moved behind those that come before it. -/
def insertMark (c : Char) : List Char → List Char
  | [] => [c]
  | d :: rest =>
    if 0 < markClass d ∧ markClass d < markClass c then d :: insertMark c rest else c :: d :: rest

/-- A text with the marks at each letter in order. Marks of one class keep theirs. -/
def orderMarks (text : List Char) : List Char :=
  text.foldr insertMark []

/-- The Hangul syllable of a consonant and a vowel, or of such a syllable and a consonant at its
end. -/
def joinHangul? (a b : Char) : Option Char :=
  if '\u1100' ≤ a ∧ a ≤ '\u1112' ∧ '\u1161' ≤ b ∧ b ≤ '\u1175' then
    some (Char.ofNat (0xAC00 + 28 * (21 * (a.toNat - 0x1100) + (b.toNat - 0x1161))))
  else if '\uAC00' ≤ a ∧ a ≤ '\uD7A3' ∧ (a.toNat - 0xAC00) % 28 = 0 ∧
      '\u11A8' ≤ b ∧ b ≤ '\u11C2' then
    some (Char.ofNat (a.toNat + (b.toNat - 0x11A7)))
  else none

/-- The character that is composed of two. -/
def join? (a b : Char) : Option Char :=
  if b ≤ '\x7f' then none
  else match joinHangul? a b with
    | some c => some c
    | none =>
      let parts := takeApart a ++ [b]
      (composites.find? (·.text = parts)).map fun s => Char.ofNat s.code

/-- A letter, the marks that stay behind it, and the text that follows, in composed form. A character
joins the letter unless one of its own class or a letter stands between them. -/
def composeFrom (letter : Char) (kept : List Char) : List Char → List Char
  | [] => letter :: kept
  | c :: rest =>
    let reaches := match kept.getLast? with
      | none => true
      | some mark => markClass mark < markClass c
    match if reaches then join? letter c else none with
    | some joined => composeFrom joined kept rest
    | none =>
      if markClass c = 0 then letter :: kept ++ composeFrom c [] rest
      else composeFrom letter (kept ++ [c]) rest

/-- A text of which the composite characters are taken apart, in composed form. -/
def compose (text : List Char) : List Char :=
  let ordered := orderMarks text
  let marks := ordered.takeWhile (markClass · ≠ 0)
  marks ++ match ordered.drop marks.length with
    | [] => []
    | letter :: rest => composeFrom letter [] rest

end CallWatch.Text
