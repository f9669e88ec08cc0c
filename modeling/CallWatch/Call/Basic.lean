import CallWatch.Call.TypeKind
import CallWatch.Error

/-! Calls as the runtime shows them. Each datum is read through an accessor that gives a value,
fails with an error, or panics; a panic ends whatever was reading. -/

namespace CallWatch

/-- What comes of reading a datum. -/
inductive Reading (α : Type)
  | value (a : α)
  | failed (e : CaptureError)
  | panicked

namespace Reading

variable {α β : Type}

/-- Goes on with the value, and ends with an error or a panic. -/
def bind (r : Reading α) (next : α → Reading β) : Reading β :=
  match r with
  | value a => next a
  | failed e => failed e
  | panicked => panicked

instance : Monad Reading where
  pure := value
  bind := bind

theorem bind_eq_value {r : Reading α} {next : α → Reading β} {b : β} :
    r >>= next = value b ↔ ∃ a, r = value a ∧ next a = value b := by
  cases r with
  | value a =>
    constructor
    · intro h
      exact ⟨a, rfl, h⟩
    · rintro ⟨a', ha, h⟩
      obtain rfl := (Reading.value.inj ha)
      exact h
  | failed e =>
    constructor
    · intro h
      exact nomatch h
    · rintro ⟨a, ha, -⟩
      exact nomatch ha
  | panicked =>
    constructor
    · intro h
      exact nomatch h
    · rintro ⟨a, ha, -⟩
      exact nomatch ha

theorem pure_eq_value {a b : α} : (pure a : Reading α) = value b ↔ a = b := by
  constructor
  · intro h
    exact Reading.value.inj h
  · rintro rfl
    rfl

/-- A reading in which something stands in place of an error. -/
def recover (r : Reading α) (instead : CaptureError → α) : Reading α :=
  match r with
  | value a => value a
  | failed e => value (instead e)
  | panicked => panicked

/-- The value, or none in place of an error. -/
def optional (r : Reading α) : Reading (Option α) :=
  match r with
  | value a => value (some a)
  | failed _ => value none
  | panicked => panicked

end Reading

/-- A typed value of the runtime. Each reader suits values of some kinds. -/
structure RuntimeValue where
  kind : Reading TypeKind
  typeName : Reading String
  typeId : Reading String
  bool : Reading Bool
  char : Reading Char
  signed : Reading Int64
  unsigned : Reading UInt64
  float : Reading Float
  string : Reading String
  enumMember : Reading String

/-- A call as the runtime shows it at one of its points. -/
structure Call where
  requestId : Reading (List UInt8)
  operation : Reading String
  /-- The length of the data of a service context that the call carries. -/
  contextLength : UInt32 → Reading (Option Nat)
  arguments : Reading (List RuntimeValue)
  result : Reading (Option RuntimeValue)
  /-- The repository ids of the target, as the client sees them. -/
  targetTypeIds : Reading (List String)
  /-- The reference of the object that the client's request goes to. -/
  target : Reading String
  exceptionId : Reading String
  /-- The id of the object that the server's request goes to. -/
  objectId : Reading (List UInt8)
  /-- The repository id of the target's most derived interface, as the server sees it. -/
  targetInterface : Reading String

end CallWatch
