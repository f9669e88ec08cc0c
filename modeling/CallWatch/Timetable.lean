import CallWatch.Error
import CallWatch.Machine

/-! Timetables: jobs that run again and again. Callers send commands, which the timetable's loop
handles in order. The clock lets a job that is due begin a run, and the run ends by itself or in a
panic. A job has one run at a time. A run that begins too late passes over the moments of its job
that have gone by. Times are in milliseconds. -/

namespace CallWatch

/-- A job: what it does, when it first runs after it is registered, and how often. A job with period
zero never runs. -/
structure Job (τ : Type) where
  id : Nat
  task : τ
  delay : Nat
  period : Nat
  deriving DecidableEq

/-- What callers ask of the loop. -/
inductive Command (τ : Type)
  | register (job : Job τ)
  | cancel (id : Nat)
  | shutdown
  deriving DecidableEq

/-- A job that the loop has registered, and when its next run is due. -/
structure Slot (τ : Type) where
  job : Job τ
  due : Nat
  deriving DecidableEq

namespace Slot

variable {τ : Type}

/-- How late a run may begin without moments being passed over. -/
def latenessMillis : Nat := 5

def isReady (slot : Slot τ) (running : List Nat) (now : Nat) : Bool :=
  slot.job.period ≠ 0 ∧ slot.due ≤ now ∧ slot.job.id ∉ running

/-- The slot after a run that begins at `now`: the next run is due a period after this one was, and
after a run that is too late at the first moment ahead. -/
def advanced (slot : Slot τ) (now : Nat) : Slot τ :=
  if now ≤ slot.due + latenessMillis then { slot with due := slot.due + slot.job.period }
  else { slot with due := slot.due + slot.job.period * ((now - slot.due) / slot.job.period + 1) }

def runsUntil (slot : Slot τ) (horizon : Nat) : Nat :=
  if slot.job.period = 0 ∨ horizon < slot.due then 0
  else (horizon - slot.due) / slot.job.period + 1

/-- When the run of a job that comes after `before` others is due. -/
def dueAfter? (slot : Slot τ) (before : Nat) : Option Nat :=
  if slot.job.period = 0 then none else some (slot.due + slot.job.period * before)

end Slot

structure Timetable (τ : Type) where
  nextId : Nat
  commands : List (Command τ)
  isOpen : Bool
  slots : List (Slot τ)
  /-- The ids of the jobs with a run that has not ended. -/
  running : List Nat

namespace Timetable

variable {τ : Type}

def empty : Timetable τ :=
  ⟨1, [], true, [], []⟩

/-- Sends a command. Once the loop has ended, it goes nowhere. -/
def send (t : Timetable τ) (command : Command τ) : Timetable τ :=
  if t.isOpen then { t with commands := t.commands ++ [command] } else t

def every (t : Timetable τ) (delay period : Nat) (task : τ) :
    Except TimetableError Nat × Timetable τ :=
  if t.isOpen then
    (.ok t.nextId,
      { t.send (.register ⟨t.nextId, task, delay, period⟩) with nextId := t.nextId + 1 })
  else (.error .closed, { t with nextId := t.nextId + 1 })

def cancel (t : Timetable τ) (id : Nat) : Timetable τ :=
  t.send (.cancel id)

def shutdown (t : Timetable τ) : Timetable τ :=
  t.send .shutdown

def obey (t : Timetable τ) (now : Nat) : Command τ → Timetable τ
  | .register job => { t with slots := t.slots ++ [⟨job, now + job.delay⟩] }
  | .cancel id => { t with slots := t.slots.filter (·.job.id ≠ id) }
  | .shutdown => { t with isOpen := false, commands := [], slots := [] }

/-- The loop handles the oldest command. -/
def handle (t : Timetable τ) (now : Nat) : Timetable τ :=
  match t.commands with
  | [] => t
  | command :: commands => { t with commands }.obey now command

def settle (t : Timetable τ) (now : Nat) : Timetable τ :=
  t.commands.foldl (fun t _ => t.handle now) t

/-- The registered job with an id, if it may begin a run. -/
def ready? (t : Timetable τ) (id now : Nat) : Option (Slot τ) :=
  t.slots.find? fun slot => slot.job.id = id ∧ slot.isReady t.running now

/-- The clock reaches `now` for a job. If the job is ready, a run of its task begins. -/
def tick (t : Timetable τ) (id now : Nat) : Option τ × Timetable τ :=
  match t.ready? id now with
  | none => (none, t)
  | some slot =>
    (some slot.job.task,
      { t with
        running := id :: t.running
        slots := t.slots.map fun e => if e.job.id = id then e.advanced now else e })

/-- The timetable when a job has no run any more. -/
def freed (t : Timetable τ) (id : Nat) : Timetable τ :=
  { t with running := t.running.erase id }

/-- A run of a job ends. The job waits for it behind a guard; a panic that got through would end the
job. -/
def finish (t : Timetable τ) (id : Nat) (ending : Ending) : Timetable τ :=
  match ending.caught with
  | .returned => t.freed id
  | .panicked => { t.freed id with slots := t.slots.filter (·.job.id ≠ id) }

/-- A run that panics is to its job like one that returns. -/
@[simp] theorem finish_eq (t : Timetable τ) (id : Nat) (ending : Ending) :
    t.finish id ending = t.freed id := by
  cases ending <;> rfl

/-- When the run of a job that comes after `before` others is due, if the job is registered. -/
def dueAfter? (t : Timetable τ) (id before : Nat) : Option Nat :=
  (t.slots.find? (·.job.id = id)).bind (·.dueAfter? before)

/-- The job whose run is due first, no later than `horizon`. Of several, the one registered first.
-/
def first? (t : Timetable τ) (horizon : Nat) : Option (Slot τ) :=
  (t.slots.filter fun slot => slot.isReady t.running horizon).foldl
    (fun best slot =>
      match best with
      | some b => if slot.due < b.due then some slot else some b
      | none => some slot)
    none

/-- At most `count` runs that are due up to `horizon`, each at its time and ended at once. -/
def runsWithin (horizon : Nat) : Nat → Timetable τ → List (Nat × τ) × Timetable τ
  | 0, t => ([], t)
  | count + 1, t =>
    match t.first? horizon with
    | none => ([], t)
    | some slot =>
      let (_, ticked) := t.tick slot.job.id slot.due
      let (later, final) := runsWithin horizon count (ticked.finish slot.job.id .returned)
      ((slot.job.id, slot.job.task) :: later, final)

/-- The runs that are due up to `horizon`, in the order of their times, each ended at once. -/
def runsUntil (t : Timetable τ) (horizon : Nat) : List (Nat × τ) × Timetable τ :=
  runsWithin horizon (t.slots.foldl (fun runs slot => runs + slot.runsUntil horizon) 0) t

end Timetable

end CallWatch
