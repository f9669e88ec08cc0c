import CallWatch.Limits
import CallWatch.Text.Hex

/-! Request keys. The first bytes of a call's raw request id tell it apart from other calls and pair
its notifications. A call without a request id has a fresh name and is paired with nothing. -/

namespace CallWatch

/-- The name of a call: one that pairs its notifications, or a fresh one. -/
inductive RequestKey
  | paired (digits : String)
  | fresh (name : String)
  deriving DecidableEq

namespace RequestKey

/-- The key of a raw request id. A call without one takes the name given for it. -/
def ofBytes (raw : List UInt8) (name : String) : RequestKey :=
  match raw with
  | [] => fresh name
  | _ => paired (String.ofList (Hex.encode (raw.take Limits.requestKeyBytes)))

/-- The key under which the call's start is kept, if the call can be paired. -/
def pairing? : RequestKey → Option String
  | paired digits => some digits
  | fresh _ => none

def text : RequestKey → String
  | paired digits => digits
  | fresh name => name

end RequestKey

end CallWatch
