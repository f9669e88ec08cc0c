import CallWatch.Dispatch.Chore
import CallWatch.Dispatch.Collector
import CallWatch.Naming.Walk
import CallWatch.Settings.Basic
import CallWatch.Timetable

/-! The scanner: it keeps a connection to the naming directory, walks it, and posts a report of what
it found. A directory whose root cannot be listed costs the connection, and the next scan connects
anew. -/

namespace CallWatch

/-- A way on which the scanner tried to connect. -/
inductive Attempt
  | initial
  | byReference (reference : String)
  deriving DecidableEq

structure Scanner where
  enabled : Bool
  reportUrl : String
  /-- The reference of the naming service by address. -/
  reference : String
  periodMillis : Nat
  /-- The root of the directory, while there is a connection. -/
  root : Option ContextId
  job : Option Nat
  lastReport : Option (List TopologyEntry)

/-- What the scanner meets outside: the ways to the directory, the directory, which may change while
it is walked, the collector, and the time. -/
structure Surroundings where
  connector : Connector
  directory : Directory.Course
  collector : Collector
  wall : Timestamp

/-- What a scan did: the ways on which it tried to connect, and the calls to the directory. -/
structure ScanTrace where
  attempts : List Attempt
  calls : List DirectoryCall

namespace Scanner

def ofSettings (s : Settings) : Scanner where
  enabled := s.scanEnabled
  reportUrl := s.reportUrl
  reference := s.nameserverReference
  periodMillis := s.scanSeconds * 1000
  root := none
  job := none
  lastReport := none

/-- Connects by the initial reference, and by address if that fails. -/
def connect (s : Scanner) (connector : Connector) :
    Except DirectoryError ContextId × List Attempt × Scanner :=
  match connector.initial with
  | .ok root => (.ok root, [.initial], { s with root := some root })
  | .error _ =>
    let attempts := [.initial, .byReference s.reference]
    match connector.byReference s.reference with
    | .ok root => (.ok root, attempts, { s with root := some root })
    | .error e => (.error e, attempts, s)

/-- Posts a report. The answer counts only in that a panic ends the scan; a report whose time has no
text is not posted. -/
def report (s : Scanner) (entries : List TopologyEntry) (wall : Timestamp)
    (collector : Collector) : Option Reply × Collector :=
  match TopologyEntry.reportJson entries wall with
  | .error _ => (none, collector)
  | .ok json =>
    let (reply, collector) := collector.post ⟨s.reportUrl, json.text⟩
    (some reply, collector)

/-- Walks the directory below a connected root, and posts and keeps what it found. -/
def scanRoot (s : Scanner) (root : ContextId) (around : Surroundings) :
    List DirectoryCall × Scanner × Collector :=
  match around.directory.walk root with
  | (.error _, calls) => (calls, { s with root := none }, around.collector)
  | (.ok entries, calls) =>
    let (reply, collector) := s.report entries around.wall around.collector
    if reply = some .panicked then (calls, s, collector)
    else (calls, { s with lastReport := some entries }, collector)

/-- A scan. Without a connection it connects first, and without success it does no more. -/
def scan (s : Scanner) (around : Surroundings) : ScanTrace × Scanner × Collector :=
  match s.root with
  | some root =>
    let (calls, s, collector) := s.scanRoot root around
    (⟨[], calls⟩, s, collector)
  | none =>
    match s.connect around.connector with
    | (.ok root, attempts, s) =>
      let (calls, s, collector) := s.scanRoot root around
      (⟨attempts, calls⟩, s, collector)
    | (.error _, attempts, s) => (⟨attempts, []⟩, s, around.collector)

/-- Puts the scans on a timetable, the first of them at once, if the scanner is enabled. It tries to
connect before that, whatever comes of it. -/
def schedule (s : Scanner) (connector : Connector) (timetable : Timetable Chore) :
    Except TimetableError Unit × List Attempt × Scanner × Timetable Chore :=
  if !s.enabled then (.ok (), [], s, timetable)
  else
    let (_, attempts, s) := s.connect connector
    match timetable.every 0 s.periodMillis .scan with
    | (.ok job, timetable) => (.ok (), attempts, { s with job := some job }, timetable)
    | (.error e, timetable) => (.error e, attempts, s, timetable)

def stop (s : Scanner) (timetable : Timetable Chore) : Scanner × Timetable Chore :=
  match s.job with
  | none => (s, timetable)
  | some job => ({ s with job := none }, timetable.cancel job)

end Scanner

end CallWatch
