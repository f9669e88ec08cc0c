import CallWatch.Event.Value
import CallWatch.Limits
import CallWatch.Timestamp
import Std.Data.ExtTreeMap

/-! Traffic events: one record for each notified point of a call, and its JSON form. An event has
the same 22 members in the same order whatever is known of the call, with null for what is not. -/

namespace CallWatch

inductive Direction
  | request
  | reply
  deriving DecidableEq

inductive Status
  | success
  | exception
  | timeout
  deriving DecidableEq

inductive MessageKind
  | request
  | reply
  | locateReply
  deriving DecidableEq

/-- Who raised an exception: the runtime, or the interface that was called. -/
inductive ExceptionKind
  | system
  | user
  deriving DecidableEq

/-- The point of a call's life that an event records. The first four are seen by the client, the
others by the server. -/
inductive Point
  | sendRequest
  | receiveReply
  | receiveException
  | receiveOther
  | receiveRequest
  | sendReply
  | sendException
  | sendOther
  deriving DecidableEq

/-- A service context, by its number and the length of its data. -/
structure ServiceContext where
  id : UInt32
  length : Nat
  deriving DecidableEq

/-- Service contexts under their names, in the order of the names. -/
abbrev ServiceContexts := Std.ExtTreeMap String ServiceContext

structure Event where
  requestId : String
  operation : Option String
  interfaceName : Option String
  repositoryId : Option String
  sourceHost : Option String
  sourcePort : Option UInt16
  targetHost : Option String
  targetPort : Option UInt16
  sourceService : Option String
  targetService : Option String
  point : Point
  contexts : Option ServiceContexts
  direction : Direction
  status : Status
  message : MessageKind
  requestData : Option Payload
  responseData : Option Payload
  errorMessage : Option String
  exceptionKind : Option ExceptionKind
  latency : Option Float
  timestamp : Timestamp

namespace Direction

def all : List Direction := [request, reply]

def wire : Direction → String
  | request => "request"
  | reply => "reply"

def label : Direction → String
  | request => "Request"
  | reply => "Reply"

end Direction

namespace Status

def all : List Status := [success, exception, timeout]

def wire : Status → String
  | success => "success"
  | exception => "exception"
  | timeout => "timeout"

def label : Status → String
  | success => "Success"
  | exception => "Exception"
  | timeout => "Timeout"

end Status

def MessageKind.all : List MessageKind := [request, reply, locateReply]

def MessageKind.wire : MessageKind → String
  | request => "Request"
  | reply => "Reply"
  | locateReply => "LocateReply"

def ExceptionKind.all : List ExceptionKind := [system, user]

def ExceptionKind.wire : ExceptionKind → String
  | system => "SYSTEM_EXCEPTION"
  | user => "USER_EXCEPTION"

def Point.all : List Point :=
  [sendRequest, receiveReply, receiveException, receiveOther, receiveRequest, sendReply,
    sendException, sendOther]

def Point.wire : Point → String
  | sendRequest => "send_request"
  | receiveReply => "receive_reply"
  | receiveException => "receive_exception"
  | receiveOther => "receive_other"
  | receiveRequest => "receive_request"
  | sendReply => "send_reply"
  | sendException => "send_exception"
  | sendOther => "send_other"

def ServiceContext.toJson (c : ServiceContext) : Json :=
  .object [("context_id", .ofNat c.id.toNat), ("data_length", .ofNat c.length)]

def ServiceContexts.toJson (contexts : ServiceContexts) : Json :=
  .object (contexts.toList.map fun (name, context) => (name, context.toJson))

namespace Event

/-- The members of an event as JSON, with the text of its timestamp given. -/
def members (e : Event) (timestamp : String) : List (String × Json) :=
  [("request_id", .string e.requestId),
    ("operation", .ofOption .string e.operation),
    ("interface_name", .ofOption .string e.interfaceName),
    ("repository_id", .ofOption .string e.repositoryId),
    ("source_host", .ofOption .string e.sourceHost),
    ("source_port", .ofOption (.ofNat ·.toNat) e.sourcePort),
    ("target_host", .ofOption .string e.targetHost),
    ("target_port", .ofOption (.ofNat ·.toNat) e.targetPort),
    ("source_service_name", .ofOption .string e.sourceService),
    ("target_service_name", .ofOption .string e.targetService),
    ("giop_version", .string Limits.protocolVersion),
    ("interceptor_point", .string e.point.wire),
    ("context_data", .ofOption ServiceContexts.toJson e.contexts),
    ("direction", .string e.direction.wire),
    ("status", .string e.status.wire),
    ("message_type", .string e.message.wire),
    ("request_data", .ofOption Payload.toJson e.requestData),
    ("response_data", .ofOption Payload.toJson e.responseData),
    ("error_message", .ofOption .string e.errorMessage),
    ("exception_type", .ofOption (.string ·.wire) e.exceptionKind),
    ("latency_ms", .ofOption .ofFloat e.latency),
    ("timestamp", .string timestamp)]

def toJson (e : Event) : Except TimestampError Json := do
  let timestamp ← e.timestamp.write
  return .object (e.members (String.ofList timestamp))

def batchJson (events : List Event) : Except TimestampError Json := do
  return .object [("events", .array (← events.mapM toJson))]

def summary (e : Event) : String :=
  "TrafficEvent\x7bop=" ++ e.operation.getD "?" ++ ", iface=" ++ e.interfaceName.getD "?" ++
    ", dir=" ++ e.direction.label ++ ", status=" ++ e.status.label ++ ", latency=" ++
    String.ofList ((Binary64.ofFloat (e.latency.getD 0.0)).writeFixed 1) ++ "ms\x7d"

end Event

end CallWatch
