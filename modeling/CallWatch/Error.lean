import CallWatch.Text.Quoted

/-! What can go wrong in the monitor, by cause: reading the settings, reaching the collector,
reading a call, asking the naming directory, and using a timetable or a crew that is closed. Each
cause has one wording, a code, and for some a hint. None of them reaches the caller of a monitored
call. -/

namespace CallWatch

inductive SettingError
  | invalidValue (key value reason : String)
  | zero (key : String)
  | fileUnreadable (path reason : String)
  deriving DecidableEq

/-- Why a request to the collector brings no status. -/
inductive TransportError
  | clientBuild (reason : String)
  | invalidHeader (name : String)
  | timeout (url : String)
  | request (url reason : String)
  deriving DecidableEq

/-- Why the runtime does not give a datum of a call. -/
inductive CaptureError
  | notAvailable (datum : String)
  | typeMismatch (expected : String) (found : UInt32)
  | runtime (reason : String)
  deriving DecidableEq

/-- Why a call to the naming directory fails. -/
inductive DirectoryError
  | unreachable (reason : String)
  | notFound (name : String)
  | notAContext (name : String)
  | callFailed (reason : String)
  deriving DecidableEq

inductive TimetableError
  | spawn (reason : String)
  | closed
  deriving DecidableEq

inductive CrewError
  | spawn (reason : String)
  | closed
  deriving DecidableEq

/-- An error of any part that the monitor's owner sees. -/
inductive MonitorError
  | setting (e : SettingError)
  | transport (e : TransportError)
  | directory (e : DirectoryError)
  | timetable (e : TimetableError)
  | crew (e : CrewError)
  deriving DecidableEq

namespace SettingError

/-- The wording of an error. A value is quoted. -/
def message : SettingError → String
  | invalidValue key value reason =>
    "Invalid value for " ++ key ++ ": " ++ String.ofList (Text.quote value.toList) ++
      " (" ++ reason ++ ")"
  | zero key => key ++ " must be greater than zero"
  | fileUnreadable path reason => "Failed to read properties file " ++ path ++ ": " ++ reason

def code : SettingError → String
  | invalidValue .. => "config::invalid_value"
  | zero _ => "config::zero_value"
  | fileUnreadable .. => "config::file_unreadable"

def hint? : SettingError → Option String
  | invalidValue .. =>
    some "Check the process property, environment variable or properties file entry."
  | zero _ => none
  | fileUnreadable .. =>
    some "The file is optional; remove MONITOR_CONFIG_FILE to fall back to defaults."

end SettingError

namespace TransportError

def message : TransportError → String
  | clientBuild reason => "Failed to build HTTP client: " ++ reason
  | invalidHeader name => "Invalid header value for " ++ name
  | timeout url => "Request to " ++ url ++ " timed out"
  | request url reason => "Request to " ++ url ++ " failed: " ++ reason

def code : TransportError → String
  | clientBuild _ => "transport::client_build"
  | invalidHeader _ => "transport::invalid_header"
  | timeout _ => "transport::timeout"
  | request .. => "transport::request_failed"

def hint? : TransportError → Option String
  | clientBuild _ | timeout _ => none
  | invalidHeader _ => some "The API token must be visible ASCII."
  | request .. =>
    some "Network or collector failure. Check that the monitor API is reachable."

end TransportError

namespace CaptureError

def message : CaptureError → String
  | notAvailable datum => datum ++ " not available at this interception point"
  | typeMismatch expected found =>
    "Type mismatch: expected " ++ expected ++ ", found kind " ++
      String.ofList (Nat.toDigits 10 found.toNat)
  | runtime reason => reason

def code : CaptureError → String
  | notAvailable _ => "capture::not_available"
  | typeMismatch .. => "capture::type_mismatch"
  | runtime _ => "capture::runtime"

/-- The short name that stands in place of a value that could not be read. -/
def kindName : CaptureError → String
  | notAvailable _ => "NotAvailable"
  | typeMismatch .. => "TypeMismatch"
  | runtime _ => "RuntimeError"

end CaptureError

namespace DirectoryError

def message : DirectoryError → String
  | unreachable reason => "Directory service unreachable: " ++ reason
  | notFound name => "Name not found: " ++ name
  | notAContext name => "Binding " ++ name ++ " is not a naming context"
  | callFailed reason => "Directory call failed: " ++ reason

def code : DirectoryError → String
  | unreachable _ => "directory::unreachable"
  | notFound _ => "directory::not_found"
  | notAContext _ => "directory::not_a_context"
  | callFailed _ => "directory::call_failed"

def hint? : DirectoryError → Option String
  | unreachable _ =>
    some "Check the nameserver host/port and that the naming service is running."
  | _ => none

end DirectoryError

namespace TimetableError

def message : TimetableError → String
  | spawn reason => "Failed to start schedule thread: " ++ reason
  | closed => "Schedule has been shut down"

def code : TimetableError → String
  | spawn _ => "schedule::spawn_failed"
  | closed => "schedule::closed"

end TimetableError

namespace CrewError

def message : CrewError → String
  | spawn reason => "Failed to spawn worker thread: " ++ reason
  | closed => "Worker pool is shut down"

def code : CrewError → String
  | spawn _ => "pool::spawn_failed"
  | closed => "pool::closed"

end CrewError

namespace MonitorError

/-- The wording of an error, behind the part that it comes from. -/
def message : MonitorError → String
  | setting e => "Configuration error: " ++ e.message
  | transport e => "Transport error: " ++ e.message
  | directory e => "Directory error: " ++ e.message
  | timetable e => "Schedule error: " ++ e.message
  | crew e => "Worker pool error: " ++ e.message

end MonitorError

end CallWatch
