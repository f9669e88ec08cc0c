import CallWatch.Json.Basic
import CallWatch.Limits
import CallWatch.Naming.Directory
import CallWatch.Reference.Endpoint
import CallWatch.Timestamp

/-! Entries of a topology report: one for each binding of the naming directory, with what is known
of the object that it leads to. -/

namespace CallWatch

structure TopologyEntry where
  path : String
  name : String
  kind : String
  type : BindingKind
  ior : Option String
  isAlive : Option Bool
  error : Option String
  host : Option String
  port : Option UInt16
  iorLength : Option Nat
  deriving DecidableEq

namespace TopologyEntry

/-- The entry of a binding of which no more is known. -/
def bare (path : String) (component : NameComponent) (type : BindingKind) : TopologyEntry where
  path
  name := component.id
  kind := component.kind
  type
  ior := none
  isAlive := none
  error := none
  host := none
  port := none
  iorLength := none

/-- The entry of an object that cannot be reached. -/
def failed (entry : TopologyEntry) (e : DirectoryError) : TopologyEntry :=
  { entry with isAlive := some false, error := some e.message }

/-- The entry with what the object's reference tells. -/
def withReference (entry : TopologyEntry) (reference : String) : TopologyEntry :=
  let endpoint := Endpoint.parse? reference
  { entry with
    ior := some reference
    host := endpoint.map (·.host)
    port := endpoint.bind (·.port)
    iorLength := (Ior.parse? reference).map (·.byteLength) }

/-- The entry with what the object says of its being. -/
def probed (entry : TopologyEntry) (gone : Except DirectoryError Bool) : TopologyEntry :=
  match gone with
  | .ok gone => { entry with isAlive := some !gone }
  | .error e => entry.failed e

/-- The entry of an object, from its own answers. -/
def ofObject (path : String) (component : NameComponent)
    (object : Except DirectoryError RemoteObject) : TopologyEntry :=
  let entry := bare path component .object
  match object with
  | .error e => entry.failed e
  | .ok object =>
    match object.reference with
    | .error e => entry.failed e
    | .ok reference => (entry.withReference reference).probed object.gone

def typeName : BindingKind → String
  | .context => "context"
  | .object => "object"

/-- An entry as JSON. What is not known is left out. -/
def toJson (e : TopologyEntry) : Json :=
  .object ([("path", .string e.path), ("name", .string e.name), ("kind", .string e.kind),
      ("type", .string (typeName e.type))] ++
    Json.member? "ior" .string e.ior ++ Json.member? "is_alive" .bool e.isAlive ++
    Json.member? "error" .string e.error ++ Json.member? "host" .string e.host ++
    Json.member? "port" (.ofNat ·.toNat) e.port ++ Json.member? "ior_length" .ofNat e.iorLength)

/-- A report of entries as JSON, if its timestamp has a text. -/
def reportJson (entries : List TopologyEntry) (timestamp : Timestamp) :
    Except TimestampError Json := do
  let time ← timestamp.write
  return .object [("source", .string Limits.reportSource),
    ("entries", .array (entries.map toJson)), ("timestamp", .string (String.ofList time))]

end TopologyEntry

end CallWatch
