import CallWatch.Call.Basic
import CallWatch.Event.Basic

/-! Capturing the data of a call. A value that cannot be read becomes a placeholder, arguments or a
result that cannot be read become a note, and service contexts are recorded by their length. -/

namespace CallWatch

namespace RuntimeValue

/-- What is shown of a value, by its kind. A structured one is shown by its type. -/
def contents (v : RuntimeValue) : Reading CapturedValue := do
  let kind ← v.kind
  match kind with
  | .boolean => return .bool (← v.bool)
  | .char | .wideChar => return .text (String.singleton (← v.char))
  | .short | .long | .longLong => return .signed (← v.signed)
  | .octet | .ushort | .ulong | .ulongLong => return .unsigned (← v.unsigned)
  | .float | .double => return .float (← v.float)
  | .string | .wideString => return .text (← v.string)
  | .enum => return .text (← v.enumMember)
  | .void | .null => return .absent
  | _ =>
    let name ← v.typeName
    return .descriptor ⟨name, kind.number, ← v.typeId⟩

/-- What is shown of a value, with a placeholder in place of an error. -/
def capture (v : RuntimeValue) : Reading CapturedValue :=
  v.contents.recover fun e => .ofReason e.kindName

/-- Whether the value is of a kind whose values are empty. One of unknown kind is not. -/
def isEmpty (v : RuntimeValue) : Reading Bool :=
  (v.kind.optional).bind fun kind => .value (kind.any TypeKind.isEmpty)

end RuntimeValue

namespace Call

def captureArguments (call : Call) (operation : String) (limit : Nat) : Reading Payload :=
  match call.arguments with
  | .value values => do
    let params ← values.mapM RuntimeValue.capture
    return (Payload.arguments operation params).bounded limit
  | .failed (.notAvailable _) =>
    .value ((Payload.ofNote "Arguments not available at this interception point").bounded limit)
  | .failed e =>
    .value ((Payload.ofNote ("Could not extract arguments: " ++ e.message)).bounded limit)
  | .panicked => .panicked

/-- What an event shows of the result; nothing where there is none, or an empty one. -/
def captureResult (call : Call) (operation : String) (limit : Nat) : Reading (Option Payload) :=
  match call.result with
  | .value (some v) => do
    if ← v.isEmpty then return none
    let value ← v.capture
    return some ((Payload.result operation value).bounded limit)
  | .value none | .failed (.notAvailable _) => .value none
  | .failed e =>
    .value (some ((Payload.ofNote ("Could not extract result: " ++ e.message)).bounded limit))
  | .panicked => .panicked

/-- The name under which a service context is recorded. -/
def contextName (id : UInt32) : String :=
  String.ofList ("ctx_".toList ++ decimal id.toNat)

def probeContext (call : Call) (id : UInt32) :
    Reading (Option (String × ServiceContext)) := do
  let length ← call.contextLength id
  return length.map fun length => (contextName id, ⟨id, length⟩)

/-- The probed service contexts that the call carries, if any. -/
def probeContexts (call : Call) : Reading (Option ServiceContexts) := do
  let found ← Limits.probedContexts.mapM call.probeContext
  match found.filterMap id with
  | [] => return none
  | entries => return some ((∅ : ServiceContexts).insertMany entries)

end Call

end CallWatch
