/-! The kinds of types that the runtime tells apart, with their standard numbers. -/

namespace CallWatch

inductive TypeKind
  | null
  | void
  | short
  | long
  | ushort
  | ulong
  | float
  | double
  | boolean
  | char
  | octet
  | any
  | typeCode
  | principal
  | objectReference
  | struct
  | union
  | enum
  | string
  | sequence
  | array
  | typedef
  | exception
  | longLong
  | ulongLong
  | longDouble
  | wideChar
  | wideString
  | fixed
  | value
  | valueBox
  | native
  | abstractInterface
  | localInterface
  deriving DecidableEq

namespace TypeKind

/-- All kinds, each at the place of its number. -/
def all : List TypeKind :=
  [null, void, short, long, ushort, ulong, float, double, boolean, char, octet, any, typeCode,
    principal, objectReference, struct, union, enum, string, sequence, array, typedef, exception,
    longLong, ulongLong, longDouble, wideChar, wideString, fixed, value, valueBox, native,
    abstractInterface, localInterface]

def number (kind : TypeKind) : UInt32 :=
  UInt32.ofNat (all.idxOf kind)

def ofNumber? (n : Nat) : Option TypeKind :=
  all[n]?

/-- Every kind stands in the list once, at the place of its number. -/
theorem ofNumber?_number (kind : TypeKind) : ofNumber? kind.number.toNat = some kind := by
  cases kind <;> decide

def isEmpty : TypeKind → Bool
  | null | void => true
  | _ => false

end TypeKind

end CallWatch
