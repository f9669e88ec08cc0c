import CallWatch.Proofs.Json.Grammar
import CallWatch.Text.Utf8

/-! A reader of JSON texts. It goes through the text once, from the left, and gives what it has read
with the text behind it. Each call of a reader within another has less fuel, and as much fuel as the
text has characters is enough. -/

namespace CallWatch.Json

def skip (text : List Char) : List Char :=
  text.dropWhile isSpace

/-- The characters of words and numbers. -/
def isWordChar (c : Char) : Bool :=
  c.isAlphanum || c = '+' || c = '-' || c = '.'

/-- The character in the escape by its code behind `\u`, of which the second half of a pair of
surrogates is one more. -/
def unicode? (text : List Char) : Option (Char × List Char) := do
  let code ← unit? (text.take 4)
  if code.isValidChar then some (Char.ofNat code, text.drop 4)
  else
    match text.drop 4 with
    | '\\' :: 'u' :: rest => do
      let low ← unit? (rest.take 4)
      if code < 0xDC00 ∧ 0xDC00 ≤ low ∧ low < 0xE000 then
        some (Char.ofNat (0x10000 + 0x400 * (code - 0xD800) + (low - 0xDC00)), rest.drop 4)
      else none
    | _ => none

def escaped? : List Char → Option (Char × List Char)
  | [] => none
  | letter :: rest =>
    if letter = 'u' then unicode? rest else (shortEscape? letter).map fun c => (c, rest)

def character? : List Char → Option (Char × List Char)
  | [] => none
  | c :: rest =>
    if c = '\\' then escaped? rest
    else if isPlain c then some (c, rest)
    else none

/-- The characters up to the end of a string. -/
def contents? : Nat → List Char → Option (List Char × List Char)
  | 0, _ => none
  | fuel + 1, text =>
    if text.head? = some '"' then some ([], text.tail)
    else do
      let (c, rest) ← character? text
      let (text, rest) ← contents? fuel rest
      return (c :: text, rest)

/-- The items up to the closing character, of which there is at least one. -/
def separated? {α : Type} (close : Char) (item : List Char → Option (α × List Char)) :
    Nat → List Char → Option (List α × List Char)
  | 0, _ => none
  | fuel + 1, text => do
    let (a, rest) ← item text
    match rest with
    | [] => none
    | c :: rest =>
      if c = close then some ([a], rest)
      else if c = ',' then do
        let (more, rest) ← separated? close item fuel rest
        return (a :: more, rest)
      else none

def bracketed? {α : Type} (close : Char) (item : List Char → Option (α × List Char)) (fuel : Nat)
    (text : List Char) : Option (List α × List Char) :=
  match skip text with
  | [] => none
  | c :: rest => if c = close then some ([], rest) else separated? close item fuel text

def pair? (element : List Char → Option (Json × List Char)) (text : List Char) :
    Option ((String × Json) × List Char) :=
  match element text with
  | some (string name, ':' :: rest) => do
    let (v, rest) ← element rest
    return ((name, v), rest)
  | _ => none

/-- The value at the start of a text, and what stands behind it and the spaces around it. -/
def element? : Nat → List Char → Option (Json × List Char)
  | 0, _ => none
  | fuel + 1, text =>
    match skip text with
    | [] => none
    | c :: rest =>
      if c = '"' then do
        let (text, rest) ← contents? fuel rest
        return (string (String.ofList text), skip rest)
      else if c = '[' then do
        let (items, rest) ← bracketed? ']' (element? fuel) fuel rest
        return (array items, skip rest)
      else if c = '\x7b' then do
        let (members, rest) ← bracketed? '\x7d' (pair? (element? fuel)) fuel rest
        return (object members, skip rest)
      else do
        let v ← word? ((c :: rest).takeWhile isWordChar)
        return (v, skip ((c :: rest).dropWhile isWordChar))

def read? (text : List Char) : Option Json :=
  match element? (text.length + 1) text with
  | some (v, []) => some v
  | _ => none

def ofBytes? (bytes : List UInt8) : Option Json :=
  (Utf8.decode? bytes).bind read?

end CallWatch.Json
