import CallWatch.Error
import CallWatch.Machine

/-! Crews: a fixed number of workers that take tasks in order from one queue. A task that a crew has
accepted runs even if the crew is closed after that, and a worker goes on after a task that
panicked. -/

namespace CallWatch

/-- A crew, the tasks that wait in the order in which they came, and those that run. -/
structure Crew (τ : Type) where
  workers : Nat
  isOpen : Bool
  waiting : List τ
  running : List τ

namespace Crew

variable {τ : Type}

def ofWorkers (workers : Nat) : Crew τ :=
  ⟨workers, true, [], []⟩

/-- Takes a task. A crew that is closed, or has no workers, refuses it. -/
def execute (c : Crew τ) (task : τ) : Except CrewError (Crew τ) :=
  if c.isOpen ∧ 0 < c.workers then .ok { c with waiting := c.waiting ++ [task] }
  else .error .closed

/-- A free worker begins the oldest task that waits. -/
def start? (c : Crew τ) : Option (Crew τ) :=
  match c.waiting with
  | [] => none
  | task :: waiting =>
    if c.running.length < c.workers then some { c with waiting, running := c.running ++ [task] }
    else none

/-- The crew when the worker with the task at a place is free again. -/
def freed (c : Crew τ) (place : Nat) : Crew τ :=
  { c with running := c.running.eraseIdx place }

/-- The running task at a place ends. Its worker goes on behind a guard; a panic that got through
would end the worker. -/
def finish (c : Crew τ) (place : Nat) (ending : Ending) : Crew τ :=
  match ending.caught with
  | .returned => c.freed place
  | .panicked => { c.freed place with workers := c.workers - 1 }

/-- A task that panics is to its crew like one that returns. -/
@[simp] theorem finish_eq (c : Crew τ) (place : Nat) (ending : Ending) :
    c.finish place ending = c.freed place := by
  cases ending <;> rfl

def close (c : Crew τ) : Crew τ :=
  { c with isOpen := false }

/-- Whether every task that was accepted has ended. -/
def isIdle (c : Crew τ) : Bool :=
  c.waiting.isEmpty && c.running.isEmpty

/-- What a shutdown says: whether all workers have given notice that they ended when its time is
over. A crew that was closed before is not waited for. -/
def shutdownReport (c : Crew τ) (notices : Nat) : Bool :=
  !c.isOpen || c.workers ≤ notices

/-- Whether a worker that is free ends: the crew is closed, and no task waits. -/
def isLeaving (c : Crew τ) : Bool :=
  !c.isOpen && c.waiting.isEmpty

/-- How far a crew is from having nothing left to do. -/
def load (c : Crew τ) : Nat :=
  2 * c.waiting.length + c.running.length

theorem load_freed {c : Crew τ} {place : Nat} (h : place < c.running.length) :
    (c.freed place).load < c.load := by
  simp only [load, freed, List.length_eraseIdx, if_pos h]
  omega

theorem load_start {c d : Crew τ} (h : c.start? = some d) : d.load < c.load := by
  unfold start? at h
  split at h
  · simp at h
  · next task waiting hw =>
    split at h
    · obtain rfl := Option.some.inj h
      simp only [load, hw, List.length_cons, List.length_append, List.length_nil]
      omega
    · simp at h

/-- The tasks that end, in order, while those that are `ready` end as they can, and the crew
after that. -/
def work (ready : τ → Bool) (ending : τ → Ending) (c : Crew τ) : List τ × Crew τ :=
  if h : c.running.findIdx ready < c.running.length then
    let task := c.running[c.running.findIdx ready]
    let (ended, final) :=
      (c.finish (c.running.findIdx ready) (ending task)).work ready ending
    (task :: ended, final)
  else
    match hs : c.start? with
    | some d => d.work ready ending
    | none => ([], c)
termination_by c.load
decreasing_by
  · rw [finish_eq]
    exact load_freed h
  · exact load_start hs

end Crew

end CallWatch
