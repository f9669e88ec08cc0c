import CallWatch.Event.Basic
import CallWatch.Text.Cut

/-! Repository ids: the short name of the type that one names, and the class of the exception that
one names. -/

namespace CallWatch.RepositoryId

/-- The id without the name of its format. -/
def withoutFormat (id : List Char) : List Char :=
  ((Text.behind? "IDL:".toList id).or (Text.behind? "RMI:".toList id)).getD id

/-- The id without its version, which stands behind the last colon unless that comes first. -/
def withoutVersion (id : List Char) : List Char :=
  match Text.cutLast? ':' id with
  | some (c :: path, _) => c :: path
  | _ => id

def lastSegment (path : List Char) : List Char :=
  match Text.cutLast? '/' path with
  | some (_, segment) => segment
  | none => path

/-- The short name of the type that an id names. -/
def shortName (id : List Char) : List Char :=
  lastSegment (withoutVersion (withoutFormat id))

def shortTypeName (id : String) : String :=
  String.ofList (shortName id.toList)

end CallWatch.RepositoryId

namespace CallWatch

structure ExceptionClass where
  status : Status
  kind : ExceptionKind
  message : String
  deriving DecidableEq

/-- The class of the exception with a repository id. A name that speaks of a passing failure or a
time limit makes it a timeout; it is the user's if its id says so, or names a type that is not the
runtime's. -/
def ExceptionClass.ofId (id : String) : ExceptionClass :=
  let name := RepositoryId.shortName id.toList
  let passing := Text.holds "TRANSIENT".toList name || Text.holds "TIMEOUT".toList name
  let user := Text.holds "USER_EXCEPTION".toList id.toList ||
    (Text.behind? "IDL:".toList id.toList).isSome &&
      (Text.behind? "IDL:omg.org/CORBA/".toList id.toList).isNone
  { status := if passing then .timeout else .exception
    kind := if user then .user else .system
    message := String.ofList ("CORBA::".toList ++ name) }

end CallWatch
