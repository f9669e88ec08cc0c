/-! Cutting a text at a separator or behind a given beginning. -/

namespace CallWatch.Text

/-- The text behind `lead`, if the text begins with it. -/
def behind? (lead text : List Char) : Option (List Char) :=
  lead.isPrefixOf? text

/-- The text behind `lead`, if the text begins with it up to the case of ASCII letters. -/
def behindAnyCase? : List Char → List Char → Option (List Char)
  | [], text => some text
  | _ :: _, [] => none
  | l :: lead, c :: text => if l.toLower = c.toLower then behindAnyCase? lead text else none

/-- The texts before and behind the first `c`, if there is one. -/
def cutFirst? (c : Char) (text : List Char) : Option (List Char × List Char) :=
  match text.dropWhile (· ≠ c) with
  | [] => none
  | _ :: rest => some (text.takeWhile (· ≠ c), rest)

/-- The texts before and behind the last `c`, if there is one. -/
def cutLast? (c : Char) (text : List Char) : Option (List Char × List Char) :=
  (cutFirst? c text.reverse).map fun (back, front) => (front.reverse, back.reverse)

/-- The text behind the first occurrence of `mark`, if there is one. -/
def behindFirst? (mark : List Char) : List Char → Option (List Char)
  | [] => behind? mark []
  | c :: text =>
    match behind? mark (c :: text) with
    | some rest => some rest
    | none => behindFirst? mark text

/-- The pieces of a text between the characters at which it is cut. A cut behind the last piece
begins one more, empty piece. -/
def pieces (cuts : Char → Bool) (text : List Char) : List (List Char) :=
  text.foldr
    (fun c rest =>
      if cuts c then [] :: rest
      else match rest with
        | [] => [[c]]
        | piece :: others => (c :: piece) :: others)
    [[]]

/-- The lines of a text. A line end behind the last line begins one more, empty line. -/
def lines (text : List Char) : List (List Char) :=
  pieces (· = '\n') text

def holds (part text : List Char) : Bool :=
  (behindFirst? part text).isSome

end CallWatch.Text
