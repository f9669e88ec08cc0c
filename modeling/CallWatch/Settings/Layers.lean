import CallWatch.Number.Integer
import CallWatch.Settings.Properties

/-! The layers in which a setting is looked up: a property of the process, a variable of the
environment, an entry of the properties file. The first text that is not empty counts. -/

namespace CallWatch

structure Layers where
  properties : Properties
  environment : Properties
  file : Properties

/-- The names under which a setting is looked up: as a property, and in the environment. -/
structure SettingKey where
  property : String
  env : String

namespace Layers

def present? (text : Option String) : Option String :=
  text.filter (· ≠ "")

/-- The text of a setting, as it stands in the first layer that has one. -/
def lookup? (layers : Layers) (key : SettingKey) : Option String :=
  (present? layers.properties[key.property]?).or
    ((present? layers.environment[key.env]?).or (present? layers.file[key.property]?))

def string (layers : Layers) (key : SettingKey) (absent : String) : String :=
  (layers.lookup? key).getD absent

/-- The value that a setting's text stands for under a reading of trimmed texts. -/
def value {α : Type} (layers : Layers) (key : SettingKey) (absent : α)
    (read : List Char → Except String α) : Except SettingError α :=
  match layers.lookup? key with
  | none => .ok absent
  | some text =>
    match read (Text.trim text.toList) with
    | .ok a => .ok a
    | .error reason => .error (.invalidValue key.property text reason)

def integer (layers : Layers) (range : IntegerRange) (key : SettingKey) (absent : Int) :
    Except SettingError Int :=
  layers.value key absent fun text => (range.read text).mapError IntegerError.message

/-- A truth value, in any case. -/
def readFlag (text : List Char) : Except String Bool :=
  let lower := text.map Char.toLower
  if lower = "true".toList then .ok true
  else if lower = "false".toList then .ok false
  else .error "expected true or false"

def flag (layers : Layers) (key : SettingKey) (absent : Bool) : Except SettingError Bool :=
  layers.value key absent readFlag

/-- An integer of a range that is not zero. -/
def positive (layers : Layers) (range : IntegerRange) (key : SettingKey) (absent : Int) :
    Except SettingError Int := do
  let n ← layers.integer range key absent
  if n = 0 then throw (.zero key.property) else return n

end Layers

end CallWatch
