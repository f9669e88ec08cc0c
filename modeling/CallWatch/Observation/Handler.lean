import CallWatch.Observation.Observer

/-! Handlers: notifications as the runtime makes them. The body of a handler reads the call, changes
the starts and hands an event to the sink, one after the other, and an error or a panic cuts it
short wherever it has come to. The guard around a body lets neither through: what was done before
stays done, and the monitored call goes on. -/

namespace CallWatch

/-- Where events are submitted. A submission may panic, whatever came before it. -/
structure Sink where
  panics : List Event → Event → Bool

/-- What handlers change: the starts, and the events that have been submitted, in order. -/
structure Scene where
  starts : Starts
  submitted : List Event

/-- A part of a handler: what comes of it, and the scene as it leaves it. -/
def Handling (α : Type) : Type :=
  Scene → Reading α × Scene

namespace Handling

variable {α β : Type}

/-- Goes on with a value. An error or a panic ends the handling, and undoes nothing. -/
def bind (h : Handling α) (next : α → Handling β) : Handling β := fun scene =>
  match h scene with
  | (.value a, scene) => next a scene
  | (.failed e, scene) => (.failed e, scene)
  | (.panicked, scene) => (.panicked, scene)

instance : Monad Handling where
  pure a := fun scene => (.value a, scene)
  bind := bind

def read (r : Reading α) : Handling α := fun scene =>
  (r, scene)

/-- Keeps or takes the start of the call, and gives its latency. -/
def time (timing : Timing) (key : RequestKey) (now : Instant) : Handling (Option Float) :=
  fun scene =>
    let (latency, starts) := timing.apply key now scene.starts
    (.value latency, { scene with starts })

/-- Submits an event. It counts as submitted even if the sink panics over it. -/
def submit (sink : Sink) (e : Event) : Handling Unit := fun scene =>
  (if sink.panics scene.submitted e then .panicked else .value (),
    { scene with submitted := scene.submitted ++ [e] })

/-- Runs a body and returns, however the body ends. -/
def guarded (body : Handling Unit) : Handling Unit := fun scene =>
  match body scene with
  | (.value (), scene) => (.value (), scene)
  | (.failed _, scene) => (.value (), scene)
  | (.panicked, scene) => (.value (), scene)

/-- A reading that gives a value is gone on with, and any other ends the handling there. -/
theorem read_bind (r : Reading α) (next : α → Handling β) (scene : Scene) :
    (read r >>= next) scene =
      match r with
      | .value a => next a scene
      | .failed e => (.failed e, scene)
      | .panicked => (.panicked, scene) := by
  cases r <;> rfl

theorem time_bind (timing : Timing) (key : RequestKey) (now : Instant)
    (next : Option Float → Handling β) (scene : Scene) : (time timing key now >>= next) scene =
      next (timing.apply key now scene.starts).1
        { scene with starts := (timing.apply key now scene.starts).2 } := rfl

theorem guarded_eq (body : Handling Unit) (scene : Scene) :
    body.guarded scene = (.value (), (body scene).2) := by
  unfold guarded
  split <;> next h => rw [h]

end Handling

namespace Observer

/-- What a handler does under its guard. -/
def body (o : Observer) (sink : Sink) (notification : Notification) (call : Call)
    (moment : Moment) : Handling Unit := do
  match ← Handling.read (call.sight notification.side moment.name) with
  | none => return
  | some seen =>
    let latency ← Handling.time notification.timing seen.key moment.now
    match notification with
    | .requestContexts => return
    | .reached point =>
      let e ← Handling.read (o.event point call seen latency moment.wall)
      Handling.submit sink e

def handle (o : Observer) (sink : Sink) (notification : Notification) (call : Call)
    (moment : Moment) : Handling Unit :=
  (o.body sink notification call moment).guarded

end Observer

end CallWatch
