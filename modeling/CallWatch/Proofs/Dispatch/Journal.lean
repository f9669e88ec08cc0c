import CallWatch.Proofs.Dispatch.Crew
import CallWatch.Proofs.Dispatch.Pieces
import Mathlib.Logic.Relation

/-! Runs of an outbox, with a journal. The events of a run are numbered as they are submitted, and
the journal follows each of them: into the queue or past it, into a batch, to a worker, and to what
came of its post. The journal is kept beside the outbox and changes nothing in it: `Mirrors` says
that the queue, the crew and the counts of the outbox are those of the journal with the numbers
left out. A step is one or more moves (`Move`), each of which shifts a single letter or a single
batch; what every move keeps holds in every run (`invariant_after`). -/

namespace CallWatch

/-- An event with the number under which it was submitted. -/
structure Letter where
  number : Nat
  event : Event

def Letter.events (batch : List Letter) : List Event :=
  batch.map (·.event)

namespace Outbox

/-- What can happen to an outbox: an event is submitted, the queue is flushed, the outbox is shut
down, a free worker begins the oldest batch that waits, or the worker with the batch at a place
delivers it. -/
inductive Step
  | submit (event : Event)
  | flush
  | shutdown
  | start
  | finish (place : Nat)

def step (o : Outbox) (collector : Collector) : Step → Outbox × Collector
  | .submit event => ((o.submit event).2, collector)
  | .flush => (o.flush.2, collector)
  | .shutdown => (o.shutdown.2.2, collector)
  | .start => (o.start, collector)
  | .finish place => o.finish place collector

def Step.event? : Step → Option Event
  | submit event => some event
  | _ => none

def Step.isShutdown : Step → Bool
  | shutdown => true
  | _ => false

/-- Whether a step is one of the workers: a batch begins or ends. -/
def Step.isWork : Step → Bool
  | start | finish _ => true
  | _ => false

end Outbox

/-- What came of the letters of a run. -/
structure Journal where
  submitted : Nat
  accepted : List Letter
  dropped : List Letter
  /-- The letters that neither entered the queue nor were counted. -/
  ignored : List Letter
  queue : List Letter
  crew : Crew (List Letter)
  /-- The batches that the crew took. -/
  dispatched : List (List Letter)
  /-- The batches that the crew refused. -/
  refused : List (List Letter)
  /-- The batches that have ended, each with the answer to its post if it could be written. -/
  ended : List (List Letter × Option Reply)

inductive Fate
  | sent
  | failed
  | lost
  deriving DecidableEq

/-- What came of a batch, by the answer to its post. One that could not be written has failed, and
one whose post panicked is lost. -/
def Fate.ofAnswer : Option Reply → Fate
  | none => failed
  | some .panicked => lost
  | some reply => if reply.isTaken then sent else failed

/-- Counts events by their fate. Lost ones are not counted. -/
def Outbox.settle (o : Outbox) (fate : Fate) (events : Nat) : Outbox :=
  match fate with
  | .sent => { o with sent := o.sent + events }
  | .failed => { o with failed := o.failed + events }
  | .lost => o

theorem Outbox.settle_eq (o : Outbox) (fate : Fate) (events : Nat) :
    o.settle fate events = { o with
      sent := o.sent + if fate = .sent then events else 0
      failed := o.failed + if fate = .failed then events else 0 } := by
  cases fate <;> rfl

theorem Outbox.settle_ofAnswer (o : Outbox) (events : Nat) (reply : Reply) :
    o.settle (Fate.ofAnswer (some reply)) events = o.count events reply := by
  cases reply with
  | status code => by_cases h : (Reply.status code).isTaken <;> simp [Fate.ofAnswer, settle, count, h]
  | timedOut => rfl
  | failed reason => rfl
  | panicked => rfl

/-- A worker posts a batch that can be written, and counts its events by what came of it. -/
theorem Outbox.deliver_eq (o : Outbox) (batch : List Event) (collector : Collector) :
    (o.deliver batch collector).2 =
      (o.settle
        (Fate.ofAnswer ((o.plan.post? batch).map fun post => (collector.post post).1)) batch.length,
      (o.plan.post? batch).elim collector fun post => (collector.post post).2) := by
  unfold deliver
  cases o.plan.post? batch with
  | none => rfl
  | some post =>
    simp only [Option.map_some, Option.elim_some, settle_ofAnswer]

/-- The worker with a batch delivers it and is free again, however that ends. -/
theorem Outbox.finish_of_running {o : Outbox} {place : Nat} {batch : List Event}
    (running : o.crew.running[place]? = some batch) (collector : Collector) :
    o.finish place collector =
      ({ o with crew := o.crew.freed place }.settle
        (Fate.ofAnswer ((o.plan.post? batch).map fun post => (collector.post post).1)) batch.length,
      (o.plan.post? batch).elim collector fun post => (collector.post post).2) := by
  simp only [finish, running, Crew.finish_eq, deliver_eq, settle_eq]

theorem Outbox.finish_of_not_running {o : Outbox} {place : Nat}
    (none : o.crew.running[place]? = none) (collector : Collector) :
    o.finish place collector = (o, collector) := by
  rw [finish, none]

/-- The end of a batch changes an outbox in its crew and its counts, and in nothing else. -/
theorem Outbox.exists_finish_eq (o : Outbox) (place : Nat) (collector : Collector) :
    ∃ sent failed, (o.finish place collector).1 =
      { o with crew := o.crew.freed place, sent := sent, failed := failed } := by
  cases running : o.crew.running[place]? with
  | none =>
    have hsame : o.crew.freed place = o.crew := by
      rw [← o.crew_finish place collector, finish_of_not_running running]
    exact ⟨o.sent, o.failed, by rw [finish_of_not_running running, hsame]⟩
  | some batch =>
    rw [finish_of_running running, settle_eq]
    exact ⟨_, _, rfl⟩

namespace Journal

def empty (workers : Nat) : Journal :=
  ⟨0, [], [], [], [], .ofWorkers workers, [], [], []⟩

/-- An event was submitted. What came of it shows in the outbox before and after. -/
def submit (j : Journal) (event : Event) (before after : Outbox) : Journal :=
  let letter : Letter := ⟨j.submitted, event⟩
  let j := { j with submitted := j.submitted + 1 }
  if before.queue.size < after.queue.size then
    { j with accepted := j.accepted ++ [letter], queue := j.queue ++ [letter] }
  else if before.dropped < after.dropped then { j with dropped := j.dropped ++ [letter] }
  else { j with ignored := j.ignored ++ [letter] }

/-- The first letters of the queue are handed to the crew. -/
def hand (j : Journal) (batch : List Letter) : Journal :=
  let j := { j with queue := j.queue.drop batch.length }
  match j.crew.execute batch with
  | .ok crew => { j with crew, dispatched := j.dispatched ++ [batch] }
  | .error _ => { j with refused := j.refused ++ [batch] }

/-- The letters of the queue are handed to the crew, if memory for a batch can be asked for. -/
def flush (j : Journal) (plan : OutboxPlan) : Journal :=
  if plan.batchFits then (pieces plan.batchSize j.queue).foldl hand j else j

def start (j : Journal) : Journal :=
  match j.crew.start? with
  | some crew => { j with crew }
  | none => j

/-- The batch at a place ends, with the answer that is found for its events. -/
def finish (j : Journal) (place : Nat) (answer : List Event → Option Reply) : Journal :=
  match j.crew.running[place]? with
  | none => j
  | some batch =>
    { j with
      crew := j.crew.freed place
      ended := j.ended ++ [(batch, answer (Letter.events batch))] }

def step (j : Journal) (o : Outbox) (collector : Collector) : Outbox.Step → Journal
  | .submit event => j.submit event o (o.submit event).2
  | .flush => j.flush o.plan
  | .shutdown =>
    if o.accepting && o.plan.batchFits then
      { j.flush o.plan with crew := (j.flush o.plan).crew.close }
    else j
  | .start => j.start
  | .finish place =>
    j.finish place fun events => (o.plan.post? events).map fun post => (collector.post post).1

/-- The letters of the batches that had a fate. -/
def under (j : Journal) (fate : Fate) : List Letter :=
  (j.ended.filter fun batch => Fate.ofAnswer batch.2 = fate).flatMap (·.1)

def posted (j : Journal) : List (List Letter) :=
  (j.ended.filter (·.2.isSome)).map (·.1)

end Journal

/-- A run of an outbox: what has become of the outbox and its collector, and the journal. -/
structure OutboxRun where
  outbox : Outbox
  collector : Collector
  journal : Journal

namespace OutboxRun

def ofPlan (plan : OutboxPlan) (collector : Collector) : OutboxRun :=
  ⟨.ofPlan plan, collector, .empty plan.workers⟩

def step (r : OutboxRun) (s : Outbox.Step) : OutboxRun :=
  ⟨(r.outbox.step r.collector s).1, (r.outbox.step r.collector s).2,
    r.journal.step r.outbox r.collector s⟩

def after (plan : OutboxPlan) (collector : Collector) (steps : List Outbox.Step) : OutboxRun :=
  steps.foldl step (ofPlan plan collector)

@[simp] theorem after_concat (plan : OutboxPlan) (collector : Collector)
    (steps : List Outbox.Step) (s : Outbox.Step) :
    after plan collector (steps ++ [s]) = (after plan collector steps).step s := by
  rw [after, List.foldl_append]
  rfl

def accept (r : OutboxRun) (event : Event) : OutboxRun :=
  { r with
    outbox := { r.outbox with queue := r.outbox.queue.push event }
    journal := { r.journal with
      submitted := r.journal.submitted + 1
      accepted := r.journal.accepted ++ [⟨r.journal.submitted, event⟩]
      queue := r.journal.queue ++ [⟨r.journal.submitted, event⟩] } }

def drop (r : OutboxRun) (event : Event) : OutboxRun :=
  { r with
    outbox := { r.outbox with dropped := r.outbox.dropped + 1 }
    journal := { r.journal with
      submitted := r.journal.submitted + 1
      dropped := r.journal.dropped ++ [⟨r.journal.submitted, event⟩] } }

def ignore (r : OutboxRun) (event : Event) : OutboxRun :=
  { r with
    journal := { r.journal with
      submitted := r.journal.submitted + 1
      ignored := r.journal.ignored ++ [⟨r.journal.submitted, event⟩] } }

theorem step_submit (r : OutboxRun) (event : Event) :
    r.step (.submit event) =
      if r.outbox.isLive then
        if r.outbox.queue.size < r.outbox.plan.capacity then r.accept event else r.drop event
      else r.ignore event := by
  simp only [step, Outbox.step, Outbox.submit, Journal.step, Journal.submit]
  by_cases live : r.outbox.isLive = true
  · by_cases room : r.outbox.queue.size < r.outbox.plan.capacity <;>
      simp [live, room, accept, drop]
  · simp [live, ignore]

/-- A batch, made of the first letters of the queue, is handed to the crew. -/
def hand (r : OutboxRun) (batch : List Letter) : OutboxRun :=
  { r with
    outbox := { r.outbox with queue := (r.outbox.queue.toList.drop batch.length).toArray }.hand
      (Letter.events batch)
    journal := r.journal.hand batch }

def answer (r : OutboxRun) (batch : List Letter) : Option Reply :=
  (r.outbox.plan.post? (Letter.events batch)).map fun post => (r.collector.post post).1

def retire (r : OutboxRun) : OutboxRun :=
  { r with outbox := { r.outbox with accepting := false, flushJob := none } }

/-- The crew takes a batch off the queue, and `rest` is left there. -/
def dispatch (r : OutboxRun) (batch rest : List Letter) : OutboxRun :=
  { r with
    outbox := { r.outbox with
      queue := (r.outbox.queue.toList.drop batch.length).toArray
      crew := { r.outbox.crew with
        waiting := r.outbox.crew.waiting ++ [Letter.events batch] } }
    journal := { r.journal with
      queue := rest
      crew := { r.journal.crew with waiting := r.journal.crew.waiting ++ [batch] }
      dispatched := r.journal.dispatched ++ [batch] } }

/-- The crew refuses a batch, which is off the queue nevertheless. -/
def refuse (r : OutboxRun) (batch rest : List Letter) : OutboxRun :=
  { r with
    outbox := { r.outbox with
      queue := (r.outbox.queue.toList.drop batch.length).toArray
      failed := r.outbox.failed + batch.length }
    journal := { r.journal with
      queue := rest
      refused := r.journal.refused ++ [batch] } }

def close (r : OutboxRun) : OutboxRun :=
  { r with
    outbox := { r.outbox with crew := r.outbox.crew.close }
    journal := { r.journal with crew := r.journal.crew.close } }

/-- A worker begins a batch, and `waiting` are left. -/
def begin (r : OutboxRun) (batch : List Letter) (waiting : List (List Letter)) : OutboxRun :=
  { r with
    outbox := { r.outbox with
      crew := { r.outbox.crew with
        waiting := waiting.map Letter.events
        running := r.outbox.crew.running ++ [Letter.events batch] } }
    journal := { r.journal with
      crew := { r.journal.crew with
        waiting := waiting
        running := r.journal.crew.running ++ [batch] } } }

/-- The batch at a place ends: it is posted if it can be written, and counted by its fate. -/
def finish (r : OutboxRun) (place : Nat) (batch : List Letter) : OutboxRun where
  outbox := { r.outbox with crew := r.outbox.crew.freed place }.settle
    (Fate.ofAnswer (r.answer batch)) batch.length
  collector := (r.outbox.plan.post? (Letter.events batch)).elim r.collector fun post =>
    (r.collector.post post).2
  journal := { r.journal with
    crew := r.journal.crew.freed place
    ended := r.journal.ended ++ [(batch, r.answer batch)] }

/-- One thing that a step does. A step is none, one or more of them, since a flush hands over one
batch after another. -/
inductive Move : OutboxRun → OutboxRun → Prop
  | accept (r : OutboxRun) (event : Event) (live : r.outbox.isLive = true)
      (room : r.outbox.queue.size < r.outbox.plan.capacity) : Move r (r.accept event)
  | drop (r : OutboxRun) (event : Event) (live : r.outbox.isLive = true)
      (full : ¬r.outbox.queue.size < r.outbox.plan.capacity) : Move r (r.drop event)
  | ignore (r : OutboxRun) (event : Event) (dead : ¬r.outbox.isLive = true) :
      Move r (r.ignore event)
  | retire (r : OutboxRun) : Move r r.retire
  | dispatch (r : OutboxRun) (batch rest : List Letter) (front : r.journal.queue = batch ++ rest)
      (nonempty : batch ≠ []) (takes : r.journal.crew.takes) : Move r (r.dispatch batch rest)
  | refuse (r : OutboxRun) (batch rest : List Letter) (front : r.journal.queue = batch ++ rest)
      (nonempty : batch ≠ []) (full : ¬r.journal.crew.takes) : Move r (r.refuse batch rest)
  | close (r : OutboxRun) (retired : r.outbox.accepting = false) (empty : r.journal.queue = []) :
      Move r r.close
  | begin (r : OutboxRun) (batch : List Letter) (waiting : List (List Letter))
      (oldest : r.journal.crew.waiting = batch :: waiting)
      (free : r.journal.crew.running.length < r.journal.crew.workers) :
      Move r (r.begin batch waiting)
  | finish (r : OutboxRun) (place : Nat) (batch : List Letter)
      (running : r.journal.crew.running[place]? = some batch) : Move r (r.finish place batch)

end OutboxRun

end CallWatch
