import CallWatch.Timetable

/-! Rounds: a timetable under a clock that its caller moves on. What is asked of the timetable is
handled at once, and runs that are due end as soon as they have begun, by themselves or in a panic.
Times are in milliseconds. -/

namespace CallWatch

/-- A timetable, the time, and the ids of the jobs in the order in which they ran. -/
structure Rounds where
  timetable : Timetable Unit
  now : Nat
  runs : List Nat

namespace Rounds

def start : Rounds :=
  ⟨.empty, 0, []⟩

def count (r : Rounds) (id : Nat) : Nat :=
  r.runs.count id

/-- The clock moves on, and what is due by then runs. -/
def advance (r : Rounds) (millis : Nat) : Rounds :=
  let horizon := r.now + millis
  let (runs, timetable) := (r.timetable.settle r.now).runsUntil horizon
  ⟨timetable, horizon, r.runs ++ runs.map (·.1)⟩

def every (r : Rounds) (delay period : Nat) : Except TimetableError Nat × Rounds :=
  let (answer, timetable) := r.timetable.every delay period ()
  (answer, { r with timetable := timetable }.advance 0)

def cancel (r : Rounds) (id : Nat) : Rounds :=
  { r with timetable := r.timetable.cancel id }.advance 0

def shutdown (r : Rounds) : Rounds :=
  { r with timetable := r.timetable.shutdown }.advance 0

/-- How long it takes until a job has run `runs` times, if it ever does. -/
def timeUntil? (r : Rounds) (id runs : Nat) : Option Nat :=
  if runs ≤ r.count id then some 0
  else (r.timetable.dueAfter? id (runs - r.count id - 1)).map (· - r.now)

/-- Lets the clock move on until a job has run `runs` times, but no longer than `patience`, and says
whether it has. -/
def await (r : Rounds) (id runs patience : Nat) : Bool × Rounds :=
  match r.timeUntil? id runs with
  | some millis => (millis ≤ patience, r.advance (min millis patience))
  | none => (false, r.advance patience)

end Rounds

end CallWatch
