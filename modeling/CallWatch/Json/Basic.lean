import CallWatch.Number.Integer
import CallWatch.Number.Shortest

/-! JSON values and their compact text. Numbers keep the text they are written with, and the members
of an object keep their order. -/

namespace CallWatch

/-- A JSON value. A number is the text of its literal. -/
inductive Json
  | null
  | bool (value : Bool)
  | number (literal : List Char)
  | string (text : String)
  | array (items : List Json)
  | object (members : List (String × Json))

namespace Json

/-- A character inside a JSON string: the short escapes, then the code of every other control. -/
def escape (c : Char) : List Char :=
  if c = '"' ∨ c = '\\' then ['\\', c]
  else if c = '\x08' then ['\\', 'b']
  else if c = '\t' then ['\\', 't']
  else if c = '\n' then ['\\', 'n']
  else if c = '\x0c' then ['\\', 'f']
  else if c = '\r' then ['\\', 'r']
  else if c < ' ' then
    ['\\', 'u', '0', '0', Nat.digitChar (c.toNat / 16), Nat.digitChar (c.toNat % 16)]
  else [c]

def quoted (text : List Char) : List Char :=
  '"' :: text.flatMap escape ++ ['"']

mutual

/-- The text of a value, without white space. -/
def write : Json → List Char
  | null => "null".toList
  | bool true => "true".toList
  | bool false => "false".toList
  | number literal => literal
  | string text => quoted text.toList
  | array items => '[' :: writeItems items ++ [']']
  | object members => '\x7b' :: writeMembers members ++ ['\x7d']

def writeItems : List Json → List Char
  | [] => []
  | [item] => item.write
  | item :: items => item.write ++ ',' :: writeItems items

def writeMembers : List (String × Json) → List Char
  | [] => []
  | [(name, value)] => quoted name.toList ++ ':' :: value.write
  | (name, value) :: members =>
    quoted name.toList ++ ':' :: (value.write ++ ',' :: writeMembers members)

end

def text (value : Json) : String :=
  String.ofList value.write

def ofNat (n : Nat) : Json :=
  number (decimal n)

def ofInt (n : Int) : Json :=
  number (decimalInt n)

/-- Doubles are positional while their first digit stands between the fifth decimal place and the
sixteenth digit before the point. -/
def floatStyle : DecimalStyle :=
  ⟨-5, 15⟩

/-- The shortest decimal of a double, or null where it is not finite. -/
def ofFloat (x : Float) : Json :=
  match (Binary64.ofFloat x).writeShortest? floatStyle with
  | some literal => number literal
  | none => null

/-- A value that may be absent, as null where it is. -/
def ofOption {α : Type} (encode : α → Json) : Option α → Json
  | some a => encode a
  | none => null

/-- A member that is left out where its value is absent. -/
def member? {α : Type} (name : String) (encode : α → Json) : Option α → List (String × Json)
  | some a => [(name, encode a)]
  | none => []

end Json

end CallWatch
