import CallWatch.Dispatch.Outbox
import CallWatch.Naming.Scanner
import CallWatch.Observation.Observer

/-! The agent: one observer, one outbox and, where there is a naming directory, one scanner, with
their regular chores on one timetable. What the runtime notifies becomes events in the outbox; a
shutdown sends what is queued and ends everything. -/

namespace CallWatch

structure Agent where
  settings : Settings
  observer : Observer
  starts : Starts
  outbox : Outbox
  timetable : Timetable Chore
  sweepJob : Nat
  scanner : Option Scanner
  stopped : Bool

/-- Why no agent starts. -/
inductive StartFailure
  | failed (e : MonitorError)
  | panicked
  deriving DecidableEq

def OutboxFailure.onStart : OutboxFailure → StartFailure
  | crew e => .failed (.crew e)
  | panicked => .panicked

namespace ScanTrace

def none : ScanTrace :=
  ⟨[], []⟩

def append (first second : ScanTrace) : ScanTrace :=
  ⟨first.attempts ++ second.attempts, first.calls ++ second.calls⟩

end ScanTrace

namespace Agent

/-- Builds an agent and puts its chores on a new timetable, those of the outbox first. The scanner,
if there is one, tries to connect. -/
def start (settings : Settings) (machine : Machine) (localHost : String)
    (connector : Option Connector) : Except StartFailure (List Attempt × Agent) := do
  let outbox ← (Outbox.build (.ofSettings settings machine)).mapError OutboxFailure.onStart
  let (flushing, outbox, timetable) := outbox.schedule Timetable.empty
  flushing.mapError fun e => .failed (.timetable e)
  let (sweeping, timetable) := timetable.every Limits.sweepMillis Limits.sweepMillis .sweep
  let sweepJob ← sweeping.mapError fun e => .failed (.timetable e)
  let agent (scanner : Option Scanner) (timetable : Timetable Chore) : Agent :=
    { settings, outbox, timetable, sweepJob, scanner
      observer := .ofSettings settings localHost
      starts := ∅
      stopped := false }
  match connector with
  | none => return ([], agent none timetable)
  | some connector =>
    let (scanning, attempts, scanner, timetable) :=
      (Scanner.ofSettings settings).schedule connector timetable
    scanning.mapError fun e => .failed (.timetable e)
    return (attempts, agent (some scanner) timetable)

/-- The runtime notifies the agent of a call. The event, if there is one, goes to the outbox. -/
def notify (a : Agent) (notification : Notification) (call : Call) (moment : Moment) : Agent :=
  let (starts, event) := a.observer.notify notification call moment a.starts
  match event with
  | none => { a with starts }
  | some event => { a with starts, outbox := (a.outbox.submit event).2 }

def flush (a : Agent) : Ending × Agent :=
  let (ending, outbox) := a.outbox.flush
  (ending, { a with outbox })

def drain (a : Agent) (collector : Collector) : Agent × Collector :=
  let (outbox, collector) := a.outbox.drain collector
  ({ a with outbox }, collector)

def health (a : Agent) (collector : Collector) : Bool × Collector :=
  a.outbox.health collector

def sweep (a : Agent) (now : Instant) : Agent :=
  { a with starts := (a.starts.sweep (a.settings.correlationSeconds * 1000000000) now).2 }

/-- Scans the naming directory, if there is a scanner. -/
def scan (a : Agent) (around : Surroundings) : ScanTrace × Agent × Collector :=
  match a.scanner with
  | none => (.none, a, around.collector)
  | some scanner =>
    let (trace, scanner, collector) := scanner.scan around
    (trace, { a with scanner := some scanner }, collector)

/-- Does a chore on the timetable, which goes on however the chore ends. -/
def perform (a : Agent) (chore : Chore) (now : Instant) (around : Surroundings) :
    ScanTrace × Agent × Collector :=
  match chore with
  | .flush => (.none, a.flush.2.drain around.collector)
  | .sweep => (.none, a.sweep now, around.collector)
  | .scan => a.scan around

/-- Does the chores that are due up to a moment of the timetable, in order. -/
def doDue (a : Agent) (horizon : Nat) (now : Instant) (around : Surroundings) :
    ScanTrace × Agent × Collector :=
  let (runs, timetable) := (a.timetable.settle horizon).runsUntil horizon
  runs.foldl
    (fun (trace, a, collector) run =>
      let (more, a, collector) := a.perform run.2 now { around with collector }
      (trace.append more, a, collector))
    (.none, { a with timetable }, around.collector)

/-- Takes the agent's chores off the timetable, sends what is queued, and ends the timetable. If the
flush panics, so does the shutdown, and the timetable goes on without the chores. A second shutdown
does nothing. -/
def shutdown (a : Agent) (horizon : Nat) (collector : Collector) : Ending × Agent × Collector :=
  if a.stopped then (.returned, a, collector)
  else
    let (scanner, timetable) := match a.scanner with
      | none => (none, a.timetable)
      | some scanner =>
        let (scanner, timetable) := scanner.stop a.timetable
        (some scanner, timetable)
    let timetable := timetable.cancel a.sweepJob
    let (ending, job, outbox) := a.outbox.shutdown
    let timetable := job.elim timetable timetable.cancel
    let a := { a with outbox, scanner, timetable, stopped := true }
    match ending with
    | .panicked => (.panicked, a, collector)
    | .returned =>
      let (a, collector) := a.drain collector
      (.returned, { a with timetable := a.timetable.shutdown.settle horizon }, collector)

end Agent

end CallWatch
