import CallWatch.Proofs.Dispatch.Mirror

/-! Where the batches of a run are. The accepted letters are, in order, those of the batches that
the crew took, those of the batches that it refused, and the queue. A batch that the crew took
waits, runs or has ended, and a crew of one worker ends its batches in the order in which it took
them. -/

namespace CallWatch

namespace OutboxRun

variable {plan : OutboxPlan} {before : Collector} {r r' : OutboxRun}

/-- Where the accepted letters of a run are, and where its batches. -/
structure Filed (r : OutboxRun) : Prop where
  accepted : r.journal.accepted =
    r.journal.dispatched.flatten ++ (r.journal.refused.flatten ++ r.journal.queue)
  refused : r.journal.refused ≠ [] → r.journal.crew.workers = 0
  closed : r.journal.crew.isOpen = false → r.outbox.accepting = false ∧ r.journal.queue = []
  nonempty : ∀ batch ∈ r.journal.dispatched, batch ≠ []
  handed : (r.journal.ended.map (·.1) ++ r.journal.crew.tasks).Perm r.journal.dispatched
  workers : r.journal.crew.workers = r.outbox.plan.workers
  room : r.journal.crew.running.length ≤ r.journal.crew.workers
  inOrder : r.outbox.plan.workers ≤ 1 →
    r.journal.ended.map (·.1) ++ r.journal.crew.tasks = r.journal.dispatched
  bounded : r.journal.queue.length ≤ r.outbox.plan.capacity

theorem Filed.ofPlan (plan : OutboxPlan) (before : Collector) : Filed (ofPlan plan before) where
  accepted := rfl
  refused h := absurd rfl h
  closed h := by simp [OutboxRun.ofPlan, Journal.empty, Crew.ofWorkers] at h
  nonempty batch h := by simp [OutboxRun.ofPlan, Journal.empty] at h
  handed := .refl _
  workers := rfl
  room := Nat.zero_le _
  inOrder _ := rfl
  bounded := Nat.zero_le _

/-- Only a crew without workers refuses a batch, since the queue is empty when a crew is closed. -/
theorem Filed.workers_eq_zero (f : Filed r) {batch rest : List Letter}
    (front : r.journal.queue = batch ++ rest) (nonempty : batch ≠ [])
    (full : ¬r.journal.crew.takes) : r.journal.crew.workers = 0 := by
  by_contra hworkers
  cases hopen : r.journal.crew.isOpen with
  | true => exact full ⟨hopen, Nat.pos_of_ne_zero hworkers⟩
  | false =>
    have hqueue := (f.closed hopen).2
    rw [front, List.append_eq_nil_iff] at hqueue
    exact nonempty hqueue.1

theorem Filed.length_rest_le (f : Filed r) {batch rest : List Letter}
    (front : r.journal.queue = batch ++ rest) : rest.length ≤ r.outbox.plan.capacity := by
  have hbounded := f.bounded
  rw [front, List.length_append] at hbounded
  omega

theorem Filed.accept (f : Filed r) (m : Mirrors plan before r) {event : Event}
    (live : r.outbox.isLive = true) (room : r.outbox.queue.size < r.outbox.plan.capacity) :
    Filed (r.accept event) := by
  refine { f with accepted := ?_, closed := ?_, bounded := ?_ }
  · simp [OutboxRun.accept, f.accepted]
  · intro hopen
    have hretired := (f.closed hopen).1
    simp [Outbox.isLive, hretired] at live
  · rw [m.size_queue] at room
    simp only [OutboxRun.accept, List.length_append, List.length_singleton]
    omega

theorem Filed.dispatch (f : Filed r) {batch rest : List Letter}
    (front : r.journal.queue = batch ++ rest) (nonempty : batch ≠ [])
    (takes : r.journal.crew.takes) : Filed (r.dispatch batch rest) := by
  have htasks : (r.dispatch batch rest).journal.crew.tasks = r.journal.crew.tasks ++ [batch] :=
    (List.append_assoc ..).symm
  have hrefused : r.journal.refused = [] := by
    by_contra h
    have hworkers := f.refused h
    have hpos := takes.2
    omega
  refine { f with
    accepted := ?_, closed := ?_, nonempty := ?_, handed := ?_, inOrder := ?_
    bounded := f.length_rest_le front }
  · show r.journal.accepted =
      (r.journal.dispatched ++ [batch]).flatten ++ (r.journal.refused.flatten ++ rest)
    rw [f.accepted, front, hrefused]
    simp
  · intro hopen
    have htaken : r.journal.crew.isOpen = true := takes.1
    exact absurd (htaken.symm.trans hopen) (by decide)
  · intro b hb
    rcases List.mem_append.mp hb with hb | hb
    · exact f.nonempty b hb
    · obtain rfl := List.mem_singleton.mp hb
      exact nonempty
  · rw [htasks, ← List.append_assoc]
    exact f.handed.append_right _
  · intro single
    rw [htasks, ← List.append_assoc]
    exact congrArg (· ++ [batch]) (f.inOrder single)

theorem Filed.refuse (f : Filed r) {batch rest : List Letter}
    (front : r.journal.queue = batch ++ rest) (nonempty : batch ≠ [])
    (full : ¬r.journal.crew.takes) : Filed (r.refuse batch rest) := by
  refine { f with
    accepted := ?_, refused := fun _ => f.workers_eq_zero front nonempty full, closed := ?_
    bounded := f.length_rest_le front }
  · show r.journal.accepted =
      r.journal.dispatched.flatten ++ ((r.journal.refused ++ [batch]).flatten ++ rest)
    rw [f.accepted, front]
    simp
  · intro hopen
    obtain ⟨hretired, hqueue⟩ := f.closed hopen
    rw [front, List.append_eq_nil_iff] at hqueue
    exact ⟨hretired, hqueue.2⟩

theorem Filed.begin (f : Filed r) {batch : List Letter} {waiting : List (List Letter)}
    (oldest : r.journal.crew.waiting = batch :: waiting)
    (free : r.journal.crew.running.length < r.journal.crew.workers) :
    Filed (r.begin batch waiting) := by
  have htasks : (r.begin batch waiting).journal.crew.tasks = r.journal.crew.tasks := by
    simp [OutboxRun.begin, Crew.tasks, oldest]
  refine { f with handed := ?_, room := ?_, inOrder := ?_ }
  · rw [htasks]
    exact f.handed
  · show (r.journal.crew.running ++ [batch]).length ≤ r.journal.crew.workers
    rw [List.length_append]
    exact free
  · rw [htasks]
    exact f.inOrder

theorem Filed.finish (f : Filed r) {place : Nat} {batch : List Letter}
    (running : r.journal.crew.running[place]? = some batch) : Filed (r.finish place batch) := by
  unfold OutboxRun.finish
  rw [Outbox.settle_eq]
  refine { f with handed := ?_, room := ?_, inOrder := ?_ }
  · refine List.Perm.trans ?_ f.handed
    rw [List.map_append, List.append_assoc]
    exact (Crew.tasks_freed running).append_left _
  · exact Nat.le_trans (List.length_eraseIdx_le ..) f.room
  · intro single
    have hroom := f.room
    have hworkers := f.workers
    rw [← f.inOrder single, List.map_append, List.append_assoc]
    refine congrArg (r.journal.ended.map (·.1) ++ ·) (Crew.tasks_freed_of_single ?_ running)
    exact Nat.le_trans hroom (hworkers ▸ single)

theorem Move.filed (move : Move r r') (m : Mirrors plan before r) (f : Filed r) : Filed r' := by
  cases move with
  | accept event live room => exact f.accept m live room
  | drop event => exact { f with }
  | ignore event => exact { f with }
  | retire => exact { f with closed := fun hopen => ⟨rfl, (f.closed hopen).2⟩ }
  | dispatch batch rest front nonempty takes => exact f.dispatch front nonempty takes
  | refuse batch rest front nonempty full => exact f.refuse front nonempty full
  | close retired empty => exact { f with closed := fun _ => ⟨retired, empty⟩ }
  | begin batch waiting oldest free => exact f.begin oldest free
  | finish place batch running => exact f.finish running

theorem filed_after (plan : OutboxPlan) (before : Collector) (steps : List Outbox.Step) :
    Filed (after plan before steps) :=
  invariant_after (.ofPlan plan before) Move.filed steps

end OutboxRun

end CallWatch
