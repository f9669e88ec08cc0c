import CallWatch.Proofs.Observation.Notice
import CallWatch.Proofs.Timing.Lasting
import Mathlib.Data.List.Induction
import Mathlib.Data.List.Basic

/-! Runs of an observer: notifications of either side and sweeps of the starts, in any order. A
history says by itself when the call with a key is underway: it has begun, and since then no step
began, completed or expired it. The starts that a run leaves are just those of the calls that are
underway (`getElem?_startsAfter`). -/

namespace CallWatch

/-- The digits that pair the notifications of calls with a raw request id. -/
def RequestKey.digits (raw : List UInt8) : String :=
  String.ofList (Hex.encode (raw.take Limits.requestKeyBytes))

theorem RequestKey.pairing?_ofBytes (raw : List UInt8) (name : String) :
    (ofBytes raw name).pairing? = if raw = [] then none else some (digits raw) := by
  cases raw with
  | nil => rfl
  | cons byte rest => rfl

namespace Notification

def beginnings : List Notification :=
  [.reached .sendRequest, .requestContexts]

/-- The notifications that complete a call and take its start. -/
def completions : List Notification :=
  [.reached .receiveReply, .reached .receiveException, .reached .sendReply,
    .reached .sendException, .reached .sendOther]

theorem timing_eq_mark_iff {n : Notification} : n.timing = .mark ↔ n ∈ beginnings := by
  rcases n with _ | point
  · decide
  · cases point <;> decide

theorem timing_eq_take_iff {n : Notification} : n.timing = .take ↔ n ∈ completions := by
  rcases n with _ | point
  · decide
  · cases point <;> decide

end Notification

/-- The key under which a call's start is kept, if the call is monitored on a side and can be
paired. -/
def Call.pairing? (call : Call) (side : Side) (name : String) : Option String :=
  match call.sight side name with
  | .value (some seen) => seen.key.pairing?
  | _ => none

/-- A call is kept under the digits of its raw request id, and only if it has one. -/
theorem Call.pairing?_eq_some {call : Call} {side : Side} {name key : String}
    (h : call.pairing? side name = some key) :
    ∃ raw, call.requestId = .value raw ∧ raw ≠ [] ∧ RequestKey.digits raw = key := by
  unfold pairing? at h
  split at h
  · next seen hseen =>
    obtain ⟨operation, ids, raw, -, -, -, -, hraw, rfl⟩ := sight_eq_some.mp hseen
    rw [RequestKey.pairing?_ofBytes] at h
    by_cases hempty : raw = []
    · simp [hempty] at h
    · rw [if_neg hempty] at h
      exact ⟨raw, hraw, hempty, Option.some.inj h⟩
  · simp at h

namespace Observer

/-- What can happen to an observer: it is notified of a call, or starts are swept whose age in
nanoseconds has reached a limit. -/
inductive Step
  | notice (notification : Notification) (call : Call) (moment : Moment)
  | sweep (limit : Nat) (now : Instant)

/-- The starts after a step, and the event that it submits. -/
def step (o : Observer) (starts : Starts) : Step → Starts × Option Event
  | .notice notification call moment => o.notify notification call moment starts
  | .sweep limit now => ((starts.sweep limit now).2, none)

def startsAfter (o : Observer) (steps : List Step) : Starts :=
  steps.foldl (fun starts s => (o.step starts s).1) ∅

@[simp] theorem startsAfter_concat (o : Observer) (steps : List Step) (s : Step) :
    o.startsAfter (steps ++ [s]) = (o.step (o.startsAfter steps) s).1 := by
  rw [startsAfter, List.foldl_append]
  rfl

/-- The events of a run from some starts, in order, each with the step that submits it. -/
def eventsFrom (o : Observer) (starts : Starts) : List Step → List (Step × Event)
  | [] => []
  | s :: rest => (o.step starts s).2.toList.map (s, ·) ++ o.eventsFrom (o.step starts s).1 rest

/-- The starts after a run that need not begin without starts. -/
def startsFrom (o : Observer) (starts : Starts) (steps : List Step) : Starts :=
  steps.foldl (fun starts s => (o.step starts s).1) starts

def Step.Begins (key : String) (began : Instant) : Step → Prop
  | notice n call moment =>
    n ∈ Notification.beginnings ∧ call.pairing? n.side moment.name = some key ∧ moment.now = began
  | sweep _ _ => False

/-- A step ends what began with a key at a time: the call begins anew or is completed, or its start
is too old for a sweep. -/
def Step.Ends (key : String) (began : Instant) : Step → Prop
  | notice n call moment =>
    n ∈ Notification.beginnings ++ Notification.completions ∧
      call.pairing? n.side moment.name = some key
  | sweep limit now => limit ≤ now.since began

/-- The call with a key began at a time, and nothing has ended it since then. -/
def Underway (history : List Step) (key : String) (began : Instant) : Prop :=
  ∃ earlier first later, history = earlier ++ first :: later ∧ first.Begins key began ∧
    ∀ s ∈ later, ¬s.Ends key began

theorem not_underway_nil (key : String) (began : Instant) : ¬Underway [] key began :=
  not_lasts_nil

/-- What is underway after a step began with it, or was underway and has not ended. -/
theorem underway_concat (history : List Step) (s : Step) (key : String) (began : Instant) :
    Underway (history ++ [s]) key began ↔
      s.Begins key began ∨ Underway history key began ∧ ¬s.Ends key began :=
  lasts_concat history s

theorem getElem?_apply (timing : Timing) (key : RequestKey) (now : Instant) (starts : Starts)
    (other : String) : (timing.apply key now starts).2[other]? =
      if key.pairing? = some other then
        match timing with
        | .mark => some now
        | .take => none
        | .leave => starts[other]?
      else starts[other]? := by
  cases hpairing : key.pairing? with
  | none =>
    rw [if_neg (by simp)]
    simp only [Timing.apply, hpairing]
  | some digits =>
    simp only [Timing.apply, hpairing, Option.some.injEq]
    cases timing with
    | mark => exact starts.getElem?_record digits other now
    | take => exact starts.getElem?_take digits other
    | leave => exact (ite_self _).symm

theorem getElem?_notify (o : Observer) (n : Notification) (call : Call) (moment : Moment)
    (starts : Starts) (key : String) :
    (o.notify n call moment starts).1[key]? =
      if call.pairing? n.side moment.name = some key then
        match n.timing with
        | .mark => some moment.now
        | .take => none
        | .leave => starts[key]?
      else starts[key]? := by
  unfold Call.pairing?
  split
  · next seen hseen => rw [notify_starts hseen, getElem?_apply]
  · next h => rw [notify_unseen h, if_neg (by simp)]

/-- After a step, a start is kept under a key if the step began it, or if it was kept before and
the step did not end it. -/
theorem getElem?_step (o : Observer) (starts : Starts) (s : Step) (key : String)
    (began : Instant) : (o.step starts s).1[key]? = some began ↔
      s.Begins key began ∨ starts[key]? = some began ∧ ¬s.Ends key began := by
  cases s with
  | notice n call moment =>
    simp only [step, getElem?_notify, Step.Begins, Step.Ends, List.mem_append,
      ← Notification.timing_eq_mark_iff, ← Notification.timing_eq_take_iff]
    by_cases hkey : call.pairing? n.side moment.name = some key
    · cases htiming : n.timing <;> simp [hkey]
    · simp [hkey]
  | sweep limit now =>
    rw [step, Starts.getElem?_sweep, Option.filter_eq_some_iff]
    simp [Step.Begins, Step.Ends]

/-- The starts after a run are those of the calls that are underway. -/
theorem getElem?_startsAfter (o : Observer) (steps : List Step) (key : String) (began : Instant) :
    (o.startsAfter steps)[key]? = some began ↔ Underway steps key began := by
  induction steps using List.reverseRecOn generalizing key began with
  | nil => simp [startsAfter, not_underway_nil]
  | append_singleton steps s ih =>
    rw [startsAfter_concat, getElem?_step, underway_concat, ih]

end Observer

end CallWatch
