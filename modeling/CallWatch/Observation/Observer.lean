import CallWatch.Observation.Capture
import CallWatch.Observation.RepositoryId
import CallWatch.Observation.Skip
import CallWatch.Reference.Endpoint
import CallWatch.Settings.Basic
import CallWatch.Timing.RequestKey
import CallWatch.Timing.Starts

/-! The observer: what the monitor does when the runtime tells it of a point of a call. It decides
whether the call is monitored, keeps or takes the start of the call, and builds the event of the
point. An error or a panic of an accessor ends a notification where it stands; what was done to the
starts before remains, and no event comes of it. -/

namespace CallWatch

inductive Side
  | client
  | server
  deriving DecidableEq

/-- The name under which the runtime knows the monitor on a side. -/
def Side.registeredName : Side → String
  | client => "MonitorClientInterceptor"
  | server => "MonitorServerInterceptor"

/-- What the runtime tells the monitor of: that a server has read a request's service contexts, or
that a call has reached a point for which there is an event. -/
inductive Notification
  | requestContexts
  | reached (point : Point)
  deriving DecidableEq

inductive Timing
  | mark
  | take
  | leave
  deriving DecidableEq

namespace Point

def side : Point → Side
  | sendRequest | receiveReply | receiveException | receiveOther => .client
  | receiveRequest | sendReply | sendException | sendOther => .server

def direction : Point → Direction
  | sendRequest | receiveRequest => .request
  | _ => .reply

def message : Point → MessageKind
  | sendRequest | receiveRequest => .request
  | receiveOther | sendOther => .locateReply
  | _ => .reply

def hasResult : Point → Bool
  | receiveReply | sendReply => true
  | _ => false

def hasException : Point → Bool
  | receiveException | sendException => true
  | _ => false

/-- What a point does to the starts. A client's request starts the call, and every ending that has
an outcome completes it, as does a server's redirection. -/
def timing : Point → Timing
  | sendRequest => .mark
  | receiveOther | receiveRequest => .leave
  | receiveReply | receiveException | sendReply | sendException | sendOther => .take

end Point

namespace Notification

def side : Notification → Side
  | requestContexts => .server
  | reached point => point.side

def timing : Notification → Timing
  | requestContexts => .mark
  | reached point => point.timing

end Notification

/-- When a notification comes: by the steady clock and by the calendar, with a name for the call in
case it has no request id. -/
structure Moment where
  now : Instant
  wall : Timestamp
  name : String

/-- Under a timing, the latency of a call and the starts. Calls that cannot be paired have none. -/
def Timing.apply (timing : Timing) (key : RequestKey) (now : Instant) (starts : Starts) :
    Option Float × Starts :=
  match timing, key.pairing? with
  | .mark, some k => (none, starts.record k now)
  | .take, some k => starts.takeElapsed k now
  | _, _ => (none, starts)

/-- A call that is monitored: its operation, the repository id of its target, and its key. -/
structure Sighting where
  operation : String
  repositoryId : Option String
  key : RequestKey

namespace Call

def typeIds (call : Call) (side : Side) : Reading (List String) :=
  match side with
  | .client => call.targetTypeIds.recover fun _ => []
  | .server => (call.targetInterface.optional).bind fun id => .value id.toList

/-- The call, unless it is not monitored. -/
def sight (call : Call) (side : Side) (name : String) : Reading (Option Sighting) := do
  let operation ← call.operation
  if Skip.operation operation then return none
  let ids ← call.typeIds side
  if Skip.typeIds ids then return none
  let raw ← call.requestId
  return some ⟨operation, ids.head?, .ofBytes raw name⟩

/-- The object's id as a name, unless it is blank. -/
def objectName (call : Call) : Reading (Option String) := do
  match ← call.objectId.optional with
  | none => return none
  | some bytes =>
    match Text.trim (Utf8.decodeLossy bytes) with
    | [] => return none
    | name => return some (String.ofList name)

/-- The endpoint of the object that the client's request goes to. -/
def targetEndpoint (call : Call) : Reading (Option Endpoint) := do
  return (← call.target.optional).bind Endpoint.parse?

def exceptionClass (call : Call) : Reading ExceptionClass := do
  return .ofId (← call.exceptionId.recover fun _ => "UNKNOWN")

end Call

/-- What the observer captures, and where it runs. -/
structure Observer where
  requestData : Bool
  responseData : Bool
  maxPayloadBytes : Nat
  localHost : String

namespace Observer

def ofSettings (s : Settings) (localHost : String) : Observer :=
  ⟨s.captureRequest, s.captureResponse, s.maxPayloadBytes, localHost⟩

/-- What the calling site knows of a call: on the client where it comes from and goes to, on the
server where it goes to and which object it asks. -/
structure Site where
  sourceHost : Option String
  targetHost : Option String
  targetPort : Option UInt16
  targetService : Option String

def site (o : Observer) (side : Side) (call : Call) : Reading Site :=
  match side with
  | .client => do
    let target ← call.targetEndpoint
    return ⟨some o.localHost, target.map (·.host), target.bind (·.port), none⟩
  | .server => do
    return ⟨none, some o.localHost, none, ← call.objectName⟩

def requestDataAt (o : Observer) (point : Point) (call : Call) (operation : String) :
    Reading (Option Payload) :=
  if point.direction = .request ∧ o.requestData then
    (call.captureArguments operation o.maxPayloadBytes).bind fun p => .value (some p)
  else .value none

def responseDataAt (o : Observer) (point : Point) (call : Call) (operation : String) :
    Reading (Option Payload) :=
  if point.hasResult ∧ o.responseData then call.captureResult operation o.maxPayloadBytes
  else .value none

def exceptionAt (point : Point) (call : Call) : Reading (Option ExceptionClass) :=
  if point.hasException then call.exceptionClass.bind fun c => .value (some c) else .value none

def event (o : Observer) (point : Point) (call : Call) (seen : Sighting) (latency : Option Float)
    (wall : Timestamp) : Reading Event := do
  let exception ← exceptionAt point call
  let site ← o.site point.side call
  let contexts ← call.probeContexts
  let requestData ← o.requestDataAt point call seen.operation
  let responseData ← o.responseDataAt point call seen.operation
  return {
    requestId := seen.key.text
    operation := some seen.operation
    interfaceName := seen.repositoryId.map RepositoryId.shortTypeName
    repositoryId := seen.repositoryId
    sourceHost := site.sourceHost
    sourcePort := none
    targetHost := site.targetHost
    targetPort := site.targetPort
    sourceService := none
    targetService := site.targetService
    point
    contexts
    direction := point.direction
    status := exception.elim .success (·.status)
    message := point.message
    requestData
    responseData
    errorMessage := exception.map (·.message)
    exceptionKind := exception.map (·.kind)
    latency
    timestamp := wall }

/-- A notification of a call: the starts after it, and the event that it submits. -/
def notify (o : Observer) (notification : Notification) (call : Call) (moment : Moment)
    (starts : Starts) : Starts × Option Event :=
  match call.sight notification.side moment.name with
  | .value (some seen) =>
    let (latency, after) := notification.timing.apply seen.key moment.now starts
    match notification with
    | .requestContexts => (after, none)
    | .reached point =>
      match o.event point call seen latency moment.wall with
      | .value e => (after, some e)
      | _ => (after, none)
  | _ => (starts, none)

end Observer

end CallWatch
