import CallWatch.Dispatch.Crew

/-! A shift: a crew at work on tasks that write their names to a log, panic, or wait at a gate
before they write. Workers go on until only tasks that wait at the closed gate are left. -/

namespace CallWatch

inductive Task
  | write (name : String)
  | panic
  | waitThenWrite (name : String)
  deriving DecidableEq

def Task.line? : Task → Option String
  | write name | waitThenWrite name => some name
  | panic => none

/-- Whether a task can end while the gate is as given. -/
def Task.canEnd (gateOpen : Bool) : Task → Bool
  | waitThenWrite _ => gateOpen
  | _ => true

def Task.ending : Task → Ending
  | panic => .panicked
  | write _ | waitThenWrite _ => .returned

structure Shift where
  crew : Crew Task
  gateOpen : Bool
  log : List String

namespace Shift

/-- A shift that begins with a closed gate. -/
def ofWorkers (workers : Nat) : Shift :=
  ⟨.ofWorkers workers, false, []⟩

def work (s : Shift) : Shift :=
  let (ended, crew) := s.crew.work (Task.canEnd s.gateOpen) Task.ending
  { s with crew, log := s.log ++ ended.filterMap Task.line? }

def execute (s : Shift) (task : Task) : Except CrewError Unit × Shift :=
  match s.crew.execute task with
  | .ok crew => (.ok (), { s with crew }.work)
  | .error e => (.error e, s)

def release (s : Shift) : Shift :=
  { s with gateOpen := true }.work

/-- The workers that have ended, once each has gone on as far as it can. -/
def left (s : Shift) : Nat :=
  if s.crew.isLeaving then s.crew.workers - s.crew.running.length else 0

/-- Closes the crew, and says whether its workers ended in time. -/
def shutdown (s : Shift) : Bool × Shift :=
  let after := { s with crew := s.crew.close }.work
  (s.crew.shutdownReport after.left, after)

end Shift

end CallWatch
