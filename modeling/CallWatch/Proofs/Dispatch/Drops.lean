import CallWatch.Proofs.Dispatch.Batches
import CallWatch.Proofs.Dispatch.Letters

/-! Dropped events. Events that are submitted in a row fill the room in the queue, and those that
come after are dropped, so that the newest go first. A warning is given at each step that brings the
number of dropped events to a multiple of a hundred, and at no other, so that a whole run gives each
of these numbers once, in order. -/

namespace CallWatch

/-- The multiples of a number, in order, among the numbers up to another one. -/
theorem filter_dvd_range' (d n : Nat) :
    (List.range' 1 n).filter (d ∣ ·) = (List.range (n / d)).map fun k => d * (k + 1) := by
  induction n with
  | zero => simp
  | succ n ih =>
    rw [List.range'_concat, List.filter_append, ih, Nat.one_mul, Nat.add_comm 1 n, Nat.succ_div]
    by_cases hdvd : d ∣ n + 1
    · have hlast : d * (n / d + 1) = n + 1 := by
        rw [← Nat.succ_div_of_dvd hdvd, Nat.mul_div_cancel' hdvd]
      simp [hdvd, List.range_succ, hlast]
    · simp [hdvd]

namespace Outbox

variable {o : Outbox}

/-- The outbox after some events were submitted to it in a row. -/
def submitAll (o : Outbox) (events : List Event) : Outbox :=
  events.foldl (fun o event => (o.submit event).2) o

/-- Of events that are submitted in a row, the first ones fill the room in the queue, and the others
are dropped. -/
theorem submitAll_eq (live : o.isLive = true) (events : List Event) :
    o.submitAll events = { o with
      queue := (o.queue.toList ++ events.take (o.plan.capacity - o.queue.size)).toArray
      dropped := o.dropped + (events.length - (o.plan.capacity - o.queue.size)) } := by
  induction events generalizing o with
  | nil => simp [submitAll]
  | cons event events ih =>
    have hfirst : o.submitAll (event :: events) = (o.submit event).2.submitAll events := rfl
    by_cases room : o.queue.size < o.plan.capacity
    · have hsubmit : (o.submit event).2 = { o with queue := o.queue.push event } := by
        simp [submit, live, room]
      obtain ⟨more, hmore⟩ := Nat.exists_eq_add_of_lt room
      have hroom : o.plan.capacity - o.queue.size = more + 1 := by omega
      have hleft : o.plan.capacity - (o.queue.push event).size = more := by
        rw [Array.size_push]
        omega
      rw [hfirst, hsubmit, ih (o := { o with queue := o.queue.push event }) live]
      simp only [hleft, hroom, Array.toList_push, List.take_succ_cons, List.length_cons,
        Nat.add_sub_add_right, List.append_assoc, List.singleton_append]
    · have hsubmit : (o.submit event).2 = { o with dropped := o.dropped + 1 } := by
        simp [submit, live, room]
      have hroom : o.plan.capacity - o.queue.size = 0 := by omega
      rw [hfirst, hsubmit, ih (o := { o with dropped := o.dropped + 1 }) live]
      simp [hroom, Nat.add_assoc, Nat.add_comm 1]

/-- The number of dropped events that a step gives for a warning, if it gives one. -/
def warning? (o : Outbox) : Step → Option Nat
  | .submit event => (o.submit event).1
  | _ => none

end Outbox

namespace OutboxRun

variable {plan : OutboxPlan} {before : Collector} {r : OutboxRun}

/-- The numbers that the next steps of a run give for a warning, in order. -/
def warnings (r : OutboxRun) : List Outbox.Step → List Nat
  | [] => []
  | s :: steps => (r.outbox.warning? s).toList ++ (r.step s).warnings steps

theorem foldl_submit (r : OutboxRun) (events : List Event) :
    ((events.map .submit).foldl step r).outbox = r.outbox.submitAll events ∧
      ((events.map .submit).foldl step r).collector = r.collector := by
  induction events generalizing r with
  | nil => exact ⟨rfl, rfl⟩
  | cons event events ih => exact ih (r.step (.submit event))

/-- A step drops no event and gives no warning, or it drops one and gives a warning if that makes
another hundred. -/
theorem Mirrors.dropped_step (m : Mirrors plan before r) (s : Outbox.Step) :
    ((r.step s).outbox.dropped = r.outbox.dropped ∧ r.outbox.warning? s = none) ∨
    ((r.step s).outbox.dropped = r.outbox.dropped + 1 ∧
      r.outbox.warning? s =
        if Limits.dropsPerWarning ∣ r.outbox.dropped + 1 then some (r.outbox.dropped + 1)
        else none) := by
  cases hevent : s.event? with
  | none =>
    have hsorting := r.journal.sorting_step r.outbox r.collector s hevent
    simp only [Journal.sorting, Prod.mk.injEq] at hsorting
    have hdropped : (r.step s).outbox.dropped = r.outbox.dropped := by
      rw [(m.step s).dropped, m.dropped]
      exact congrArg List.length hsorting.2.2.1
    refine .inl ⟨hdropped, ?_⟩
    cases s with
    | submit event => simp [Outbox.Step.event?] at hevent
    | _ => rfl
  | some event =>
    obtain rfl : s = .submit event := by
      cases s <;> simp_all [Outbox.Step.event?]
    have hstep : (r.step (.submit event)).outbox = (r.outbox.submit event).2 := rfl
    simp only [hstep, Outbox.warning?, Outbox.submit, Nat.dvd_iff_mod_eq_zero]
    split
    · exact .inl ⟨rfl, rfl⟩
    · split
      · exact .inl ⟨rfl, rfl⟩
      · exact .inr ⟨rfl, rfl⟩

/-- The warnings of a run are given at the multiples of a hundred that the number of dropped events
passes. -/
theorem Mirrors.exists_warnings_eq (m : Mirrors plan before r) (steps : List Outbox.Step) :
    ∃ n, (steps.foldl OutboxRun.step r).outbox.dropped = r.outbox.dropped + n ∧
      r.warnings steps =
        (List.range' (r.outbox.dropped + 1) n).filter (Limits.dropsPerWarning ∣ ·) := by
  induction steps generalizing r with
  | nil => exact ⟨0, rfl, rfl⟩
  | cons s steps ih =>
    obtain ⟨n, hdropped, hwarnings⟩ := ih (m.step s)
    rw [List.foldl_cons, warnings, hdropped, hwarnings]
    rcases m.dropped_step s with ⟨hsame, hnone⟩ | ⟨hmore, hwarning⟩
    · exact ⟨n, by rw [hsame], by rw [hsame, hnone]; rfl⟩
    · refine ⟨n + 1, by omega, ?_⟩
      rw [hmore, hwarning, List.range'_succ, List.filter_cons]
      split <;> simp_all

/-- In every state of a run in which the outbox takes events, the queue is within its capacity, and
of any number of events that are submitted in a row the first ones go into the room behind the
queue, in order, and each of the others raises the count of dropped ones. Nothing else changes. A
step gives a warning just if it brings the number of dropped events to a multiple of a hundred, and
a whole run gives, once each and in order, those multiples that the number has come to. -/
theorem excess_dropped (plan : OutboxPlan) (before : Collector) (steps : List Outbox.Step) :
    let r := after plan before steps
    let room := plan.capacity - r.outbox.queue.size
    r.outbox.queue.size ≤ plan.capacity ∧
    (r.outbox.isLive = true → ∀ events : List Event,
      let later := after plan before (steps ++ events.map .submit)
      later.collector = r.collector ∧
      later.outbox = { r.outbox with
        queue := (r.outbox.queue.toList ++ events.take room).toArray
        dropped := r.outbox.dropped + (events.length - room) }) ∧
    (∀ s n, r.outbox.warning? s = some n ↔
      r.outbox.dropped < n ∧ (r.step s).outbox.dropped = n ∧ Limits.dropsPerWarning ∣ n) ∧
    (ofPlan plan before).warnings steps =
      (List.range (r.outbox.dropped / Limits.dropsPerWarning)).map fun k =>
        Limits.dropsPerWarning * (k + 1) := by
  intro r room
  have m := mirrors_after plan before steps
  refine ⟨?_, ?_, ?_, ?_⟩
  · have hbounded := (filed_after plan before steps).bounded
    rw [m.plan_eq] at hbounded
    rw [m.size_queue]
    exact hbounded
  · intro live events later
    have hlater : later = (events.map .submit).foldl step r := List.foldl_append
    obtain ⟨houtbox, hcollector⟩ := r.foldl_submit events
    have hroom : r.outbox.plan.capacity - r.outbox.queue.size = room := by rw [m.plan_eq]
    rw [hlater, hcollector, houtbox, Outbox.submitAll_eq live, hroom]
    exact ⟨rfl, rfl⟩
  · intro s n
    rcases m.dropped_step s with ⟨hsame, hnone⟩ | ⟨hmore, hwarning⟩
    · rw [hnone, hsame]
      exact ⟨nofun, fun h => absurd h.2.1 (Nat.ne_of_lt h.1)⟩
    · rw [hwarning, hmore, Option.ite_none_right_eq_some, Option.some.injEq]
      constructor
      · rintro ⟨hdvd, rfl⟩
        exact ⟨Nat.lt_succ_self _, rfl, hdvd⟩
      · rintro ⟨-, rfl, hdvd⟩
        exact ⟨hdvd, rfl⟩
  · obtain ⟨n, hdropped, hwarnings⟩ :=
      (Mirrors.ofPlan plan before).exists_warnings_eq steps
    have htotal : r.outbox.dropped = n := hdropped.trans (Nat.zero_add n)
    rw [hwarnings, htotal]
    exact filter_dvd_range' _ n

/-- A queue of two events takes the first two of a hundred and three, and the hundredth of the
others gives the only warning. -/
theorem excess_dropped_of_full_queue :
    let plan : OutboxPlan :=
      ⟨true, 2, 10, 1, 0, "traffic", "batch", "health", ⟨600, 608, 64, ""⟩, by decide⟩
    let before : Collector := ⟨fun _ => .status 200, fun _ => .status 200, #[], #[]⟩
    let event := fun operation => Event.ofOperation operation 2024
    let events := event "b" :: List.replicate 102 (event "c")
    let start := after plan before [.submit (event "a")]
    let steps : List Outbox.Step := [.submit (event "a")] ++ events.map .submit
    start.outbox.isLive = true ∧
      (after plan before steps).outbox.queue.toList = [event "a", event "b"] ∧
      (after plan before steps).outbox.dropped = 102 ∧
      (ofPlan plan before).warnings steps = [100] := by
  intro plan before event events start steps
  have live : start.outbox.isLive = true := rfl
  obtain ⟨-, houtbox⟩ := (excess_dropped plan before [.submit (event "a")]).2.1 live events
  have hwarnings := (excess_dropped plan before steps).2.2.2
  have hdropped : (after plan before steps).outbox.dropped = 102 :=
    (congrArg (·.dropped) houtbox).trans (by decide +kernel)
  have hroom : plan.capacity - start.outbox.queue.size = 1 := rfl
  have hqueue : (after plan before steps).outbox.queue.toList = [event "a", event "b"] := by
    rw [houtbox, hroom]
    rfl
  rw [hdropped] at hwarnings
  exact ⟨live, hqueue, hdropped, hwarnings⟩

end OutboxRun

end CallWatch
