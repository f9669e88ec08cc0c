import CallWatch.Event.Basic
import CallWatch.Proofs.Event.Moment
import CallWatch.Proofs.Json.Number

/-! What a reader of an event's JSON learns of the event: all strings and integers, the literals of
doubles, what is absent, and the values that stand behind names and times. The members of an event
have their names in one order, each of them once, and a payload has those of its four members that
are not absent. -/

namespace CallWatch

namespace Json

def string? : Json → Option String
  | string s => some s
  | _ => none

def whole? : Json → Option Int
  | number literal => integer? literal
  | _ => none

def literal? : Json → Option (List Char)
  | number literal => some literal
  | _ => none

def nullable? {α : Type} (read? : Json → Option α) : Json → Option (Option α)
  | null => some none
  | v => (read? v).map some

/-- A member that may be missing, and the members behind it. -/
def optional? {α : Type} (name : String) (read? : Json → Option α)
    (members : List (String × Json)) : Option (Option α × List (String × Json)) :=
  match members with
  | [] => some (none, [])
  | (first, v) :: rest =>
    if first = name then (read? v).map fun a => (some a, rest) else some (none, members)

end Json

/-- What is learned of a captured value. -/
inductive CapturedValue.Shown
  | null
  | bool (value : Bool)
  | integer (value : Int)
  | float (literal : List Char)
  | text (value : String)
  | descriptor (name : String) (kind : Int) (id : String)
  deriving DecidableEq

namespace CapturedValue

def Shown.ofJson? : Json → Option Shown
  | .null => some .null
  | .bool value => some (.bool value)
  | .number literal =>
    match Json.integer? literal with
    | some value => some (.integer value)
    | none => some (.float literal)
  | .string value => some (.text value)
  | .object [("_type", name), ("_kind", kind), ("_id", id)] => do
    return .descriptor (← name.string?) (← kind.whole?) (← id.string?)
  | _ => none

def shown : CapturedValue → Shown
  | bool value => .bool value
  | signed value => .integer value.toInt
  | unsigned value => .integer value.toNat
  | float value =>
    match (Binary64.ofFloat value).writeShortest? Json.floatStyle with
    | some literal => .float literal
    | none => .null
  | text value => .text value
  | descriptor type => .descriptor type.name type.kind.toNat type.id
  | absent => .null
  | unavailable placeholder => .text placeholder

end CapturedValue

structure Payload.Record where
  idlType : Option String
  params : Option (List CapturedValue.Shown)
  returnValue : Option CapturedValue.Shown
  note : Option String
  deriving DecidableEq

namespace Payload

/-- The arguments in an object, each under the name of its position. -/
def Record.params? : Json → Option (List CapturedValue.Shown)
  | .object members =>
    members.zipIdx.mapM fun ((name, v), position) =>
      if name = "arg" ++ toString position then CapturedValue.Shown.ofJson? v else none
  | _ => none

def Record.ofJson? : Json → Option Record
  | .object members => do
    let (idlType, members) ← Json.optional? "_idl_type" Json.string? members
    let (params, members) ← Json.optional? "params" params? members
    let (returnValue, members) ← Json.optional? "return_value" CapturedValue.Shown.ofJson? members
    let (note, members) ← Json.optional? "_note" Json.string? members
    if members.isEmpty then some ⟨idlType, params, returnValue, note⟩ else none
  | _ => none

def record (p : Payload) : Record where
  idlType := p.idlType
  params := p.params.map (List.map CapturedValue.shown)
  returnValue := p.returnValue.map CapturedValue.shown
  note := p.note

end Payload

/-- What is learned of a service context, by the number and the length that it has. -/
def ServiceContext.read? : Json → Option (Int × Int)
  | .object [("context_id", id), ("data_length", length)] => do
    return (← id.whole?, ← length.whole?)
  | _ => none

def ServiceContexts.read? : Json → Option (List (String × Int × Int))
  | .object members => members.mapM fun (name, v) => (ServiceContext.read? v).map (name, ·)
  | _ => none

def ServiceContexts.shown (contexts : ServiceContexts) : List (String × Int × Int) :=
  contexts.toList.map fun (name, context) => (name, context.id.toNat, context.length)

def Point.ofText? : String → Option Point
  | "send_request" => some sendRequest
  | "receive_reply" => some receiveReply
  | "receive_exception" => some receiveException
  | "receive_other" => some receiveOther
  | "receive_request" => some receiveRequest
  | "send_reply" => some sendReply
  | "send_exception" => some sendException
  | "send_other" => some sendOther
  | _ => none

def Direction.ofText? : String → Option Direction
  | "request" => some request
  | "reply" => some reply
  | _ => none

def Status.ofText? : String → Option Status
  | "success" => some success
  | "exception" => some exception
  | "timeout" => some timeout
  | _ => none

def MessageKind.ofText? : String → Option MessageKind
  | "Request" => some request
  | "Reply" => some reply
  | "LocateReply" => some locateReply
  | _ => none

def ExceptionKind.ofText? : String → Option ExceptionKind
  | "SYSTEM_EXCEPTION" => some system
  | "USER_EXCEPTION" => some user
  | _ => none

/-- The value that a text stands for. -/
def Json.named? {α : Type} (ofText? : String → Option α) (v : Json) : Option α :=
  v.string?.bind ofText?

namespace Event

def fieldNames : List String :=
  ["request_id", "operation", "interface_name", "repository_id", "source_host", "source_port",
    "target_host", "target_port", "source_service_name", "target_service_name", "giop_version",
    "interceptor_point", "context_data", "direction", "status", "message_type", "request_data",
    "response_data", "error_message", "exception_type", "latency_ms", "timestamp"]

structure Record where
  requestId : String
  operation : Option String
  interfaceName : Option String
  repositoryId : Option String
  sourceHost : Option String
  sourcePort : Option Int
  targetHost : Option String
  targetPort : Option Int
  sourceService : Option String
  targetService : Option String
  version : String
  point : Point
  contexts : Option (List (String × Int × Int))
  direction : Direction
  status : Status
  message : MessageKind
  requestData : Option Payload.Record
  responseData : Option Payload.Record
  errorMessage : Option String
  exceptionKind : Option ExceptionKind
  latency : Option (List Char)
  timestamp : Timestamp
  deriving DecidableEq

open Json in
/-- The record in an object that has all members of an event in their order, and no others. -/
def Record.ofJson? : Json → Option Record
  | .object members =>
    if members.map Prod.fst = fieldNames then
      match members.map Prod.snd with
      | [requestId, operation, interfaceName, repositoryId, sourceHost, sourcePort, targetHost,
          targetPort, sourceService, targetService, version, point, contexts, direction, status,
          message, requestData, responseData, errorMessage, exceptionKind, latency, timestamp] => do
        return {
          requestId := ← requestId.string?
          operation := ← operation.nullable? string?
          interfaceName := ← interfaceName.nullable? string?
          repositoryId := ← repositoryId.nullable? string?
          sourceHost := ← sourceHost.nullable? string?
          sourcePort := ← sourcePort.nullable? whole?
          targetHost := ← targetHost.nullable? string?
          targetPort := ← targetPort.nullable? whole?
          sourceService := ← sourceService.nullable? string?
          targetService := ← targetService.nullable? string?
          version := ← version.string?
          point := ← point.named? Point.ofText?
          contexts := ← contexts.nullable? ServiceContexts.read?
          direction := ← direction.named? Direction.ofText?
          status := ← status.named? Status.ofText?
          message := ← message.named? MessageKind.ofText?
          requestData := ← requestData.nullable? Payload.Record.ofJson?
          responseData := ← responseData.nullable? Payload.Record.ofJson?
          errorMessage := ← errorMessage.nullable? string?
          exceptionKind := ← exceptionKind.nullable? (named? ExceptionKind.ofText?)
          latency := ← latency.nullable? literal?
          timestamp := ← timestamp.named? fun text => Timestamp.read? text.toList }
      | _ => none
    else none
  | _ => none

/-- What is to be learned of an event. -/
def record (e : Event) : Record where
  requestId := e.requestId
  operation := e.operation
  interfaceName := e.interfaceName
  repositoryId := e.repositoryId
  sourceHost := e.sourceHost
  sourcePort := e.sourcePort.map (·.toNat)
  targetHost := e.targetHost
  targetPort := e.targetPort.map (·.toNat)
  sourceService := e.sourceService
  targetService := e.targetService
  version := "1.2"
  point := e.point
  contexts := e.contexts.map ServiceContexts.shown
  direction := e.direction
  status := e.status
  message := e.message
  requestData := e.requestData.map Payload.record
  responseData := e.responseData.map Payload.record
  errorMessage := e.errorMessage
  exceptionKind := e.exceptionKind
  latency := e.latency.bind fun x => (Binary64.ofFloat x).writeShortest? Json.floatStyle
  timestamp := e.timestamp

end Event

namespace Json

theorem whole?_ofNat (n : Nat) : (ofNat n).whole? = some (n : Int) :=
  integer?_decimal n

section Absent

variable {α β : Type} {read? : Json → Option β} {encode : α → Json} {shown : α → β}

/-- What is absent is null, and nothing else is. -/
theorem nullable?_ofOption (hread : ∀ a, read? (encode a) = some (shown a))
    (hne : ∀ a, encode a ≠ null) (o : Option α) :
    nullable? read? (ofOption encode o) = some (o.map shown) := by
  cases o with
  | none => rfl
  | some a =>
    rw [ofOption, nullable?.eq_def]
    split
    · next hnull => exact absurd hnull (hne a)
    · rw [hread]
      rfl

theorem fst_of_mem_member? {name : String} {o : Option α} {m : String × Json}
    (h : m ∈ member? name encode o) : m.1 = name := by
  cases o with
  | none => exact nomatch h
  | some a => rw [List.mem_singleton.mp h]

/-- A member is read or found missing if none behind it has its name. -/
theorem optional?_member? (hread : ∀ a, read? (encode a) = some (shown a)) (name : String)
    {rest : List (String × Json)} (hrest : ∀ m ∈ rest, m.1 ≠ name) (o : Option α) :
    optional? name read? (member? name encode o ++ rest) = some (o.map shown, rest) := by
  cases o with
  | none =>
    cases rest with
    | nil => rfl
    | cons m rest => exact if_neg (hrest m List.mem_cons_self)
  | some a => simp [member?, optional?, hread]

end Absent

end Json

namespace CapturedValue

theorem ofJson?_toJson (v : CapturedValue) : Shown.ofJson? v.toJson = some v.shown := by
  cases v with
  | signed value =>
    rw [toJson, Json.ofInt, Shown.ofJson?, Json.integer?_decimalInt]
    rfl
  | unsigned value =>
    rw [toJson, Json.ofNat, Shown.ofJson?, Json.integer?_decimal]
    rfl
  | float value =>
    rw [toJson, Json.ofFloat, shown]
    cases h : (Binary64.ofFloat value).writeShortest? Json.floatStyle with
    | none => rfl
    | some literal => rw [Shown.ofJson?, (Json.isNumber_writeShortest? h).2]
  | descriptor type =>
    simp [toJson, Shown.ofJson?, Json.string?, Json.whole?_ofNat, shown]
  | bool | text | absent | unavailable => rfl

end CapturedValue

namespace Payload

theorem argumentName_eq (position : Nat) : argumentName position = "arg" ++ toString position := by
  rw [argumentName, String.ofList_append, String.ofList_toList]
  rfl

theorem params?_paramsJson (params : List CapturedValue) :
    Record.params? (paramsJson params) = some (params.map CapturedValue.shown) := by
  rw [paramsJson, Record.params?]
  -- the positions count on from any first one, as the induction on the arguments needs it
  generalize 0 = first
  induction params generalizing first with
  | nil => rfl
  | cons v params ih =>
    rw [List.zipIdx_cons, List.map_cons, List.zipIdx_cons, List.mapM_cons, ih (first + 1)]
    simp [argumentName_eq, CapturedValue.ofJson?_toJson]

theorem ofJson?_toJson (p : Payload) : Record.ofJson? p.toJson = some p.record := by
  have hnote : ∀ m ∈ Json.member? "_note" .string p.note, m.1 = "_note" :=
    fun m hm => Json.fst_of_mem_member? hm
  have hreturn : ∀ m ∈ Json.member? "return_value" CapturedValue.toJson p.returnValue,
      m.1 = "return_value" := fun m hm => Json.fst_of_mem_member? hm
  have hparams : ∀ m ∈ Json.member? "params" paramsJson p.params, m.1 = "params" :=
    fun m hm => Json.fst_of_mem_member? hm
  have htext : ∀ s : String, Json.string? (.string s) = some (id s) := fun _ => rfl
  rw [toJson, Record.ofJson?, ← List.append_nil (Json.member? "_note" _ _)]
  simp only [List.append_assoc, Option.bind_eq_bind]
  rw [Json.optional?_member? htext "_idl_type" (by grind), Option.bind_some,
    Json.optional?_member? params?_paramsJson "params" (by grind), Option.bind_some,
    Json.optional?_member? CapturedValue.ofJson?_toJson "return_value" (by grind), Option.bind_some,
    Json.optional?_member? htext "_note" (List.forall_mem_nil _), Option.bind_some, Option.map_id]
  rfl

end Payload

theorem ServiceContext.read?_toJson (c : ServiceContext) :
    read? c.toJson = some ((c.id.toNat : Int), (c.length : Int)) := by
  simp [toJson, read?, Json.whole?_ofNat]

theorem ServiceContexts.read?_toJson (contexts : ServiceContexts) :
    read? contexts.toJson = some contexts.shown := by
  rw [toJson, read?, shown]
  induction contexts.toList with
  | nil => rfl
  | cons context contexts ih => simp [List.mapM_cons, ServiceContext.read?_toJson, ih]

theorem Point.ofText?_wire (point : Point) : ofText? point.wire = some point := by
  cases point <;> rfl

theorem Direction.ofText?_wire (direction : Direction) :
    ofText? direction.wire = some direction := by
  cases direction <;> rfl

theorem Status.ofText?_wire (status : Status) : ofText? status.wire = some status := by
  cases status <;> rfl

theorem MessageKind.ofText?_wire (message : MessageKind) :
    ofText? message.wire = some message := by
  cases message <;> rfl

theorem ExceptionKind.ofText?_wire (kind : ExceptionKind) : ofText? kind.wire = some kind := by
  cases kind <;> rfl

namespace Event

theorem ofJson?_members (e : Event) {timestamp : List Char}
    (h : e.timestamp.write = .ok timestamp) :
    Record.ofJson? (.object (e.members (String.ofList timestamp))) = some e.record := by
  have hstring : ∀ o : Option String,
      Json.nullable? Json.string? (.ofOption .string o) = some (o.map id) :=
    Json.nullable?_ofOption (fun _ => rfl) nofun
  have hport : ∀ o : Option UInt16,
      Json.nullable? Json.whole? (.ofOption (.ofNat ·.toNat) o) =
        some (o.map fun port => (port.toNat : Int)) :=
    Json.nullable?_ofOption (fun port : UInt16 => Json.whole?_ofNat port.toNat) nofun
  have hcontexts : ∀ o : Option ServiceContexts,
      Json.nullable? ServiceContexts.read? (.ofOption ServiceContexts.toJson o) =
        some (o.map ServiceContexts.shown) :=
    Json.nullable?_ofOption ServiceContexts.read?_toJson nofun
  have hpayload : ∀ o : Option Payload,
      Json.nullable? Payload.Record.ofJson? (.ofOption Payload.toJson o) =
        some (o.map Payload.record) :=
    Json.nullable?_ofOption Payload.ofJson?_toJson nofun
  have hkind : ∀ o : Option ExceptionKind,
      Json.nullable? (Json.named? ExceptionKind.ofText?) (.ofOption (.string ·.wire) o) =
        some (o.map id) :=
    Json.nullable?_ofOption ExceptionKind.ofText?_wire nofun
  have hlatency : ∀ o : Option Float,
      Json.nullable? Json.literal? (.ofOption .ofFloat o) =
        some (o.bind fun x => (Binary64.ofFloat x).writeShortest? Json.floatStyle) := by
    intro o
    cases o with
    | none => rfl
    | some x =>
      rw [Json.ofOption, Json.ofFloat, Option.bind_some]
      cases (Binary64.ofFloat x).writeShortest? Json.floatStyle <;> rfl
  have hnames : (e.members (String.ofList timestamp)).map Prod.fst = fieldNames := rfl
  rw [Record.ofJson?, if_pos hnames]
  simp only [members, List.map_cons, List.map_nil, Json.string?, Json.named?, hstring, hport,
    hcontexts, hpayload, hkind, hlatency, Point.ofText?_wire, Direction.ofText?_wire,
    Status.ofText?_wire, MessageKind.ofText?_wire, String.toList_ofList, Timestamp.read?_write h,
    Option.bind_eq_bind, Option.bind_some, Option.map_id, id_eq]
  rfl

end Event

namespace Json

theorem proper_ofNat (n : Nat) : Proper (ofNat n) :=
  .number (isNumber_decimal n)

theorem proper_ofInt (n : Int) : Proper (ofInt n) :=
  .number (isNumber_decimalInt n)

theorem proper_ofFloat (x : Float) : Proper (ofFloat x) := by
  rw [ofFloat]
  split
  · next h => exact .number (isNumber_writeShortest? h).1
  · exact .null

variable {α : Type} {encode : α → Json}

theorem proper_ofOption (h : ∀ a, Proper (encode a)) (o : Option α) :
    Proper (ofOption encode o) := by
  cases o with
  | none => exact .null
  | some a => exact h a

theorem proper_of_mem_member? (h : ∀ a, Proper (encode a)) {name : String} {o : Option α}
    {m : String × Json} (hm : m ∈ member? name encode o) : Proper m.2 := by
  cases o with
  | none => exact nomatch hm
  | some a =>
    rw [List.mem_singleton.mp hm]
    exact h a

end Json

open Json (Proper)

theorem CapturedValue.proper_toJson (v : CapturedValue) : Proper v.toJson := by
  cases v with
  | bool value => exact .bool value
  | signed value => exact Json.proper_ofInt _
  | unsigned value => exact Json.proper_ofNat _
  | float value => exact Json.proper_ofFloat value
  | text value => exact .string value
  | descriptor type =>
    refine .object ?_
    simp only [List.forall_mem_cons]
    exact ⟨.string _, Json.proper_ofNat _, .string _, List.forall_mem_nil _⟩
  | absent => exact .null
  | unavailable placeholder => exact .string placeholder

namespace Payload

theorem proper_paramsJson (params : List CapturedValue) : Proper (paramsJson params) := by
  refine .object fun m hm => ?_
  obtain ⟨⟨v, position⟩, -, rfl⟩ := List.mem_map.mp hm
  exact v.proper_toJson

theorem proper_toJson (p : Payload) : Proper p.toJson := by
  refine .object fun m hm => ?_
  rcases List.mem_append.mp hm with hm | hm
  · rcases List.mem_append.mp hm with hm | hm
    · rcases List.mem_append.mp hm with hm | hm
      · exact Json.proper_of_mem_member? .string hm
      · exact Json.proper_of_mem_member? proper_paramsJson hm
    · exact Json.proper_of_mem_member? CapturedValue.proper_toJson hm
  · exact Json.proper_of_mem_member? .string hm

end Payload

theorem ServiceContexts.proper_toJson (contexts : ServiceContexts) : Proper contexts.toJson := by
  refine .object fun m hm => ?_
  obtain ⟨⟨name, context⟩, -, rfl⟩ := List.mem_map.mp hm
  refine .object ?_
  simp only [List.forall_mem_cons]
  exact ⟨Json.proper_ofNat _, Json.proper_ofNat _, List.forall_mem_nil _⟩

theorem Event.proper_members (e : Event) (timestamp : String) :
    Proper (.object (e.members timestamp)) := by
  refine .object ?_
  have htext : ∀ o : Option String, Proper (.ofOption .string o) := Json.proper_ofOption .string
  have hport : ∀ o : Option UInt16, Proper (.ofOption (.ofNat ·.toNat) o) :=
    Json.proper_ofOption fun port => Json.proper_ofNat port.toNat
  have hpayload : ∀ o : Option Payload, Proper (.ofOption Payload.toJson o) :=
    Json.proper_ofOption Payload.proper_toJson
  simp only [members, List.forall_mem_cons]
  exact ⟨.string _, htext _, htext _, htext _, htext _, hport _, htext _, hport _, htext _,
    htext _, .string _, .string _, Json.proper_ofOption ServiceContexts.proper_toJson _,
    .string _, .string _, .string _, hpayload _, hpayload _, htext _,
    Json.proper_ofOption (fun _ => .string _) _, Json.proper_ofOption Json.proper_ofFloat _,
    .string _, List.forall_mem_nil _⟩

end CallWatch
