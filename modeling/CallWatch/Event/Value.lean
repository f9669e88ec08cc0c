import CallWatch.Json.Basic
import CallWatch.Text.Utf8

/-! Captured values and payloads: what an event shows of the arguments or the result of a call. A
payload whose JSON text is longer than a limit is replaced by a note of its length. -/

namespace CallWatch

/-- A structured value by its type, not its contents. -/
structure TypeDescriptor where
  name : String
  kind : UInt32
  id : String
  deriving DecidableEq

/-- What is shown of one argument or result. -/
inductive CapturedValue
  | bool (value : Bool)
  | signed (value : Int64)
  | unsigned (value : UInt64)
  | float (value : Float)
  | text (value : String)
  | descriptor (type : TypeDescriptor)
  | absent
  | unavailable (placeholder : String)

namespace CapturedValue

/-- The placeholder of a value that could not be read: the reason in angle brackets. -/
def ofReason (reason : String) : CapturedValue :=
  unavailable ("<" ++ reason ++ ">")

def isAbsent : CapturedValue → Bool
  | absent => true
  | _ => false

/-- A value as JSON, without a mark of its kind. -/
def toJson : CapturedValue → Json
  | bool value => .bool value
  | signed value => .ofInt value.toInt
  | unsigned value => .ofNat value.toNat
  | float value => .ofFloat value
  | text value => .string value
  | descriptor type =>
    .object [("_type", .string type.name), ("_kind", .ofNat type.kind.toNat),
      ("_id", .string type.id)]
  | absent => .null
  | unavailable placeholder => .string placeholder

end CapturedValue

/-- What is shown of a call's arguments or result. -/
structure Payload where
  idlType : Option String
  params : Option (List CapturedValue)
  returnValue : Option CapturedValue
  note : Option String

namespace Payload

def arguments (operation : String) (params : List CapturedValue) : Payload :=
  ⟨some operation, some params, none, none⟩

def result (operation : String) (value : CapturedValue) : Payload :=
  ⟨some (operation ++ "::_return"), none, some value, none⟩

def ofNote (note : String) : Payload :=
  ⟨none, none, none, some note⟩

/-- The name of the argument at a position. -/
def argumentName (position : Nat) : String :=
  String.ofList ("arg".toList ++ decimal position)

def paramsJson (params : List CapturedValue) : Json :=
  .object (params.zipIdx.map fun (value, position) => (argumentName position, value.toJson))

/-- A payload as JSON. What it does not have is left out. -/
def toJson (p : Payload) : Json :=
  .object (Json.member? "_idl_type" .string p.idlType ++ Json.member? "params" paramsJson p.params ++
    Json.member? "return_value" CapturedValue.toJson p.returnValue ++
    Json.member? "_note" .string p.note)

/-- The length of a payload's JSON text in bytes. -/
def size (p : Payload) : Nat :=
  Utf8.size p.toJson.write

/-- What is shown in place of a payload that is too long. -/
def tooLong (size limit : Nat) : Payload :=
  ofNote (String.ofList ("Payload of ".toList ++ decimal size ++ " bytes exceeds limit of ".toList ++
    decimal limit ++ " bytes".toList))

/-- The payload, or a note where its JSON text has more than `limit` bytes. -/
def bounded (limit : Nat) (p : Payload) : Payload :=
  if limit < p.size then tooLong p.size limit else p

end Payload

end CallWatch
