import CallWatch.Dispatch.Chore
import CallWatch.Dispatch.Collector
import CallWatch.Dispatch.Crew
import CallWatch.Event.Basic
import CallWatch.Machine
import CallWatch.Settings.Basic
import CallWatch.Timetable

/-! The outbox: a bounded queue of events in front of the crew that posts them. An event that finds
the queue full is dropped and counted. A flush hands the whole queue to the crew in batches, and a
batch is posted once, whatever comes of it. The settings admit sizes of a batch and of the queue for
which no memory can be asked for: with such a batch every flush panics, and with such a queue no
outbox is built. -/

namespace CallWatch

structure OutboxPlan where
  enabled : Bool
  capacity : Nat
  batchSize : Nat
  workers : Nat
  flushMillis : Nat
  trafficUrl : String
  batchUrl : String
  healthUrl : String
  machine : Machine
  batchSize_pos : 0 < batchSize := by decide

namespace OutboxPlan

def ofSettings (s : Settings) (machine : Machine) : OutboxPlan where
  enabled := s.enabled
  capacity := max s.queueCapacity 1
  batchSize := max s.batchSize 1
  workers := max s.poolSize 1
  flushMillis := s.flushMillis
  trafficUrl := s.trafficUrl
  batchUrl := s.batchUrl
  healthUrl := s.healthUrl
  machine
  batchSize_pos := Nat.le_max_right ..

/-- Whether memory for a batch can be asked for. -/
def batchFits (plan : OutboxPlan) : Bool :=
  Machine.canAllocate plan.batchSize plan.machine.eventBytes

/-- Whether memory for the queue can be asked for. -/
def queueFits (plan : OutboxPlan) : Bool :=
  Machine.canAllocate plan.capacity plan.machine.placeBytes

/-- The post of a batch, if its events can be written. A single event is posted by itself. -/
def post? (plan : OutboxPlan) (batch : List Event) : Option Post :=
  match batch with
  | [event] =>
    match event.toJson with
    | .ok json => some ⟨plan.trafficUrl, json.text⟩
    | .error _ => none
  | _ =>
    match Event.batchJson batch with
    | .ok json => some ⟨plan.batchUrl, json.text⟩
    | .error _ => none

end OutboxPlan

structure Stats where
  sent : Nat
  failed : Nat
  dropped : Nat
  queued : Nat
  deriving DecidableEq

namespace Stats

def toJson (s : Stats) : Json :=
  .object [("sent", .ofNat s.sent), ("failed", .ofNat s.failed), ("dropped", .ofNat s.dropped),
    ("queued", .ofNat s.queued)]

def summary (s : Stats) : String :=
  String.ofList ("sent=".toList ++ decimal s.sent ++ ", failed=".toList ++ decimal s.failed ++
    ", dropped=".toList ++ decimal s.dropped ++ ", queued=".toList ++ decimal s.queued)

end Stats

structure Outbox where
  plan : OutboxPlan
  accepting : Bool
  queue : Array Event
  crew : Crew (List Event)
  flushJob : Option Nat
  sent : Nat
  failed : Nat
  dropped : Nat

/-- Why no outbox is built. -/
inductive OutboxFailure
  | crew (e : CrewError)
  | panicked
  deriving DecidableEq

namespace Outbox

/-- An outbox that has just been built. -/
def ofPlan (plan : OutboxPlan) : Outbox where
  plan
  accepting := true
  queue := #[]
  crew := .ofWorkers plan.workers
  flushJob := none
  sent := 0
  failed := 0
  dropped := 0

/-- Builds an outbox: first the crew, if there are threads for all its workers, then the queue. -/
def build (plan : OutboxPlan) : Except OutboxFailure Outbox :=
  if plan.machine.threads < plan.workers then
    .error (.crew (.spawn plan.machine.refusal))
  else if !plan.queueFits then .error .panicked
  else .ok (.ofPlan plan)

def stats (o : Outbox) : Stats :=
  ⟨o.sent, o.failed, o.dropped, o.queue.size⟩

def isLive (o : Outbox) : Bool :=
  o.plan.enabled && o.accepting

/-- Submits an event. Each time the number of dropped events passes another hundred, it is given for
a warning. -/
def submit (o : Outbox) (event : Event) : Option Nat × Outbox :=
  if !o.isLive then (none, o)
  else if o.queue.size < o.plan.capacity then (none, { o with queue := o.queue.push event })
  else
    let dropped := o.dropped + 1
    (if dropped % Limits.dropsPerWarning = 0 then some dropped else none, { o with dropped })

/-- Hands a batch to the crew. Its events have failed if the crew refuses it. -/
def hand (o : Outbox) (batch : List Event) : Outbox :=
  match o.crew.execute batch with
  | .ok crew => { o with crew }
  | .error _ => { o with failed := o.failed + batch.length }

theorem plan_hand (o : Outbox) (batch : List Event) : (o.hand batch).plan = o.plan := by
  rw [hand]
  split <;> rfl

theorem queue_hand (o : Outbox) (batch : List Event) : (o.hand batch).queue = o.queue := by
  rw [hand]
  split <;> rfl

/-- The events that a turn of a flush takes off the queue: as many as a batch holds, or all. -/
def front (o : Outbox) : List Event :=
  o.queue.toList.take o.plan.batchSize

/-- One turn of a flush: the front of the queue is handed to the crew. -/
def turn (o : Outbox) : Outbox :=
  ({ o with queue := (o.queue.toList.drop o.plan.batchSize).toArray } : Outbox).hand o.front

@[simp] theorem plan_turn (o : Outbox) : o.turn.plan = o.plan :=
  plan_hand ..

theorem queue_turn (o : Outbox) :
    o.turn.queue = (o.queue.toList.drop o.plan.batchSize).toArray :=
  queue_hand ..

theorem size_queue_turn {o : Outbox} (h : o.front ≠ []) : o.turn.queue.size < o.queue.size := by
  have hpos := o.plan.batchSize_pos
  have hfront : 0 < o.queue.size := by
    rw [Nat.pos_iff_ne_zero]
    intro hsize
    simp [front, Array.eq_empty_of_size_eq_zero hsize] at h
  simp only [queue_turn, List.size_toArray, List.length_drop, Array.length_toList]
  omega

/-- A flush makes room for a batch in each turn, and panics if memory for it cannot be asked for. It
returns when a turn finds nothing in the queue, or less than a batch holds. -/
def flush (o : Outbox) : Ending × Outbox :=
  if !o.plan.batchFits then (.panicked, o)
  else if h : o.front = [] then (.returned, o)
  else if o.front.length < o.plan.batchSize then (.returned, o.turn)
  else
    have := size_queue_turn h
    o.turn.flush
termination_by o.queue.size

/-- Counts the events of a batch by the answer to its post. If the post panicked, they are not
counted. -/
def count (o : Outbox) (events : Nat) : Reply → Outbox
  | .panicked => o
  | reply =>
    if reply.isTaken then { o with sent := o.sent + events }
    else { o with failed := o.failed + events }

/-- What a worker does with a batch: it posts it, if it can be written, and counts its events. A
post that panics takes the worker's task with it. -/
def deliver (o : Outbox) (batch : List Event) (collector : Collector) :
    Ending × Outbox × Collector :=
  match o.plan.post? batch with
  | none => (.returned, { o with failed := o.failed + batch.length }, collector)
  | some post =>
    let (reply, collector) := collector.post post
    (reply.ending, o.count batch.length reply, collector)

def start (o : Outbox) : Outbox :=
  match o.crew.start? with
  | some crew => { o with crew }
  | none => o

def finish (o : Outbox) (place : Nat) (collector : Collector) : Outbox × Collector :=
  match o.crew.running[place]? with
  | none => (o, collector)
  | some batch =>
    let (ending, o, collector) := o.deliver batch collector
    ({ o with crew := o.crew.finish place ending }, collector)

theorem crew_count (o : Outbox) (events : Nat) (reply : Reply) :
    (o.count events reply).crew = o.crew := by
  unfold count
  split
  · rfl
  · split <;> rfl

theorem crew_deliver (o : Outbox) (batch : List Event) (collector : Collector) :
    (o.deliver batch collector).2.1.crew = o.crew := by
  unfold deliver
  split
  · rfl
  · exact o.crew_count ..

theorem crew_finish (o : Outbox) (place : Nat) (collector : Collector) :
    (o.finish place collector).1.crew = o.crew.freed place := by
  unfold finish
  split
  · next none => rw [Crew.freed, List.eraseIdx_of_length_le (List.getElem?_eq_none_iff.mp none)]
  · simp only [Crew.finish_eq, crew_deliver]

theorem load_finish {o : Outbox} {place : Nat} (h : place < o.crew.running.length)
    (collector : Collector) : (o.finish place collector).1.crew.load < o.crew.load := by
  rw [crew_finish]
  exact Crew.load_freed h

/-- The workers deliver all batches, in the order in which they begin them. -/
def drain (o : Outbox) (collector : Collector) : Outbox × Collector :=
  if h : 0 < o.crew.running.length then
    have := load_finish h collector
    (o.finish 0 collector).1.drain (o.finish 0 collector).2
  else
    match h : o.crew.start? with
    | some crew =>
      have := Crew.load_start h
      { o with crew }.drain collector
    | none => (o, collector)
termination_by o.crew.load

/-- Shuts the outbox down: it accepts nothing more, sends what is queued, and closes the crew. The
flush job is given, to be cancelled. A flush that panics leaves the crew open and the queue as it
is. A second shutdown does nothing. -/
def shutdown (o : Outbox) : Ending × Option Nat × Outbox :=
  if !o.accepting then (.returned, none, o)
  else
    match { o with accepting := false, flushJob := none }.flush with
    | (.returned, flushed) =>
      (.returned, o.flushJob, { flushed with crew := flushed.crew.close })
    | (.panicked, flushed) => (.panicked, o.flushJob, flushed)

/-- Puts the regular flush on a timetable, if the outbox is enabled. -/
def schedule (o : Outbox) (timetable : Timetable Chore) :
    Except TimetableError Unit × Outbox × Timetable Chore :=
  if !o.plan.enabled then (.ok (), o, timetable)
  else
    match timetable.every o.plan.flushMillis o.plan.flushMillis .flush with
    | (.ok job, timetable) => (.ok (), { o with flushJob := some job }, timetable)
    | (.error e, timetable) => (.error e, o, timetable)

/-- Asks the collector for its health. Only the status 200 will do. -/
def health (o : Outbox) (collector : Collector) : Bool × Collector :=
  let (reply, collector) := collector.check ⟨o.plan.healthUrl, Limits.healthCheckMillis⟩
  (reply = .status 200, collector)

end Outbox

end CallWatch
