import CallWatch.Proofs.Dispatch.Journal
import Mathlib.Data.List.Induction
import Mathlib.Data.List.Perm.Basic

/-! A step of an outbox is one or more moves, and every move keeps the journal the mirror of the
outbox. What a run begins with and every move keeps therefore holds in the whole run
(`invariant_after`). -/

namespace CallWatch

theorem Letter.events_append (a b : List Letter) : events (a ++ b) = events a ++ events b :=
  List.map_append

theorem Letter.length_events (batch : List Letter) : (events batch).length = batch.length :=
  List.length_map ..

namespace Journal

theorem queue_foldl_hand (j : Journal) (batches : List (List Letter)) :
    (batches.foldl hand j).queue = j.queue.drop batches.flatten.length := by
  induction batches generalizing j with
  | nil => rfl
  | cons batch batches ih =>
    have hqueue : (j.hand batch).queue = j.queue.drop batch.length := by
      simp only [hand]
      split <;> rfl
    rw [List.foldl_cons, ih, hqueue, List.drop_drop, List.flatten_cons, List.length_append]

theorem queue_flush (j : Journal) {plan : OutboxPlan} (fits : plan.batchFits = true) :
    (j.flush plan).queue = [] := by
  rw [flush, if_pos fits, queue_foldl_hand, flatten_pieces, List.drop_length]

theorem under_ended (j : Journal) (batch : List Letter) (answer : Option Reply) (fate : Fate)
    (crew : Crew (List Letter)) :
    ({ j with crew := crew, ended := j.ended ++ [(batch, answer)] } : Journal).under fate =
      j.under fate ++ if Fate.ofAnswer answer = fate then batch else [] := by
  by_cases h : Fate.ofAnswer answer = fate <;> simp [under, List.filter_append, h]

theorem posted_ended (j : Journal) (batch : List Letter) (answer : Option Reply)
    (crew : Crew (List Letter)) :
    ({ j with crew := crew, ended := j.ended ++ [(batch, answer)] } : Journal).posted =
      j.posted ++ if answer.isSome then [batch] else [] := by
  by_cases h : answer.isSome <;> simp [posted, List.filter_append, h]

end Journal

namespace OutboxRun

/-- The outbox is what the journal says with the numbers left out, and the collector was sent the
posts of the batches that ended. -/
structure Mirrors (plan : OutboxPlan) (before : Collector) (r : OutboxRun) : Prop where
  plan_eq : r.outbox.plan = plan
  queue : r.outbox.queue.toList = Letter.events r.journal.queue
  crew : r.outbox.crew = r.journal.crew.map Letter.events
  sent : r.outbox.sent = (r.journal.under .sent).length
  failed : r.outbox.failed =
    r.journal.refused.flatten.length + (r.journal.under .failed).length
  dropped : r.outbox.dropped = r.journal.dropped.length
  posts : r.collector.posts.toList =
    before.posts.toList ++ r.journal.posted.filterMap fun batch => plan.post? (Letter.events batch)
  written : ∀ batch ∈ r.journal.ended,
    batch.2.isSome = (plan.post? (Letter.events batch.1)).isSome

variable {plan : OutboxPlan} {before : Collector} {r r' : OutboxRun}

theorem Mirrors.ofPlan (plan : OutboxPlan) (before : Collector) :
    Mirrors plan before (ofPlan plan before) where
  plan_eq := rfl
  queue := rfl
  crew := rfl
  sent := rfl
  failed := rfl
  dropped := rfl
  posts := (List.append_nil _).symm
  written batch h := by simp [OutboxRun.ofPlan, Journal.empty] at h

theorem Mirrors.size_queue (m : Mirrors plan before r) :
    r.outbox.queue.size = r.journal.queue.length := by
  rw [← Array.length_toList, m.queue, Letter.length_events]

theorem Mirrors.drop_queue (m : Mirrors plan before r) {batch rest : List Letter}
    (front : r.journal.queue = batch ++ rest) :
    r.outbox.queue.toList.drop batch.length = Letter.events rest := by
  rw [m.queue, front, Letter.events_append, ← Letter.length_events batch, List.drop_left]

theorem Mirrors.finish (m : Mirrors plan before r) (place : Nat) (batch : List Letter) :
    Mirrors plan before (r.finish place batch) := by
  have hplan := m.plan_eq
  have hcrew := Crew.freed_map Letter.events r.journal.crew place
  rw [← m.crew] at hcrew
  unfold OutboxRun.finish
  rw [Outbox.settle_eq]
  refine { m with crew := hcrew, sent := ?_, failed := ?_, posts := ?_, written := ?_ }
  · show r.outbox.sent + (if Fate.ofAnswer (r.answer batch) = .sent then batch.length else 0) = _
    rw [Journal.under_ended, List.length_append, ← m.sent, apply_ite List.length, List.length_nil]
  · show r.outbox.failed + (if Fate.ofAnswer (r.answer batch) = .failed then batch.length else 0) =
      _
    rw [Journal.under_ended, List.length_append, ← Nat.add_assoc, ← m.failed,
      apply_ite List.length, List.length_nil]
  · rw [Journal.posted_ended]
    cases hpost : plan.post? (Letter.events batch) <;>
      simp [answer, hplan, hpost, m.posts, Collector.post]
  · intro ended hmem
    rcases List.mem_append.mp hmem with hmem | hmem
    · exact m.written ended hmem
    · obtain rfl := List.mem_singleton.mp hmem
      simp [answer, hplan]

/-- Every move keeps the journal the mirror of the outbox. -/
theorem Move.mirrors (move : Move r r') (m : Mirrors plan before r) : Mirrors plan before r' := by
  cases move with
  | accept event =>
    refine { m with queue := ?_ }
    rw [OutboxRun.accept, Array.toList_push, m.queue, Letter.events_append]
    rfl
  | drop event =>
    refine { m with dropped := ?_ }
    rw [OutboxRun.drop, List.length_append, m.dropped]
    rfl
  | ignore event => exact { m with }
  | retire => exact { m with }
  | dispatch batch rest front =>
    refine { m with queue := m.drop_queue front, crew := ?_ }
    simp [OutboxRun.dispatch, m.crew, Crew.map]
  | refuse batch rest front =>
    refine { m with queue := m.drop_queue front, failed := ?_ }
    show r.outbox.failed + batch.length =
      (r.journal.refused ++ [batch]).flatten.length + (r.journal.under .failed).length
    rw [List.flatten_append, List.flatten_singleton, List.length_append, m.failed]
    omega
  | close =>
    refine { m with crew := ?_ }
    rw [OutboxRun.close, m.crew, Crew.map_close]
  | begin batch waiting =>
    refine { m with crew := ?_ }
    simp [OutboxRun.begin, m.crew, Crew.map]
  | finish place batch => exact m.finish place batch

theorem moves_submit (r : OutboxRun) (event : Event) : Move r (r.step (.submit event)) := by
  rw [step_submit]
  split
  · next live =>
    split
    · next room => exact .accept r event live room
    · next full => exact .drop r event live full
  · next dead => exact .ignore r event dead

theorem Mirrors.takes_iff (m : Mirrors plan before r) :
    r.outbox.crew.takes ↔ r.journal.crew.takes := by
  rw [m.crew]
  rfl

theorem Mirrors.move_hand (m : Mirrors plan before r) {batch rest : List Letter}
    (front : r.journal.queue = batch ++ rest) (nonempty : batch ≠ []) : Move r (r.hand batch) := by
  have hrest : (batch ++ rest).drop batch.length = rest := List.drop_left
  by_cases takes : r.journal.crew.takes
  · have h := Move.dispatch r batch rest front nonempty takes
    simpa [OutboxRun.hand, OutboxRun.dispatch, Outbox.hand, Journal.hand,
      Crew.execute_of_takes takes, Crew.execute_of_takes (m.takes_iff.mpr takes), front, hrest]
      using h
  · have h := Move.refuse r batch rest front nonempty takes
    simpa [OutboxRun.hand, OutboxRun.refuse, Outbox.hand, Journal.hand,
      Crew.execute_of_not_takes takes, Crew.execute_of_not_takes (mt m.takes_iff.mp takes), front,
      hrest, Letter.length_events] using h

/-- Handing over batches one by one, each off the front of the queue, is handing them over from a
queue that was cut beforehand. -/
theorem foldl_hand (batches : List (List Letter)) (r : OutboxRun) :
    batches.foldl hand r = {
      outbox := (batches.map Letter.events).foldl Outbox.hand { r.outbox with
        queue := (r.outbox.queue.toList.drop batches.flatten.length).toArray }
      collector := r.collector
      journal := batches.foldl Journal.hand r.journal } := by
  induction batches generalizing r with
  | nil => simp
  | cons batch batches ih =>
    rw [List.foldl_cons, ih, List.map_cons, List.foldl_cons, List.foldl_cons]
    simp only [hand, Outbox.queue_hand, Outbox.hand_with_queue, List.drop_drop, List.flatten_cons,
      List.length_append]

theorem Mirrors.step_flush (m : Mirrors plan before r) (fits : r.outbox.plan.batchFits = true) :
    r.step .flush = (pieces r.outbox.plan.batchSize r.journal.queue).foldl hand r := by
  have hall : r.outbox.queue.toList.drop r.journal.queue.length = [] := by
    rw [← m.size_queue, ← Array.length_toList, List.drop_length]
  rw [foldl_hand, flatten_pieces, hall]
  simp only [step, Outbox.step, Outbox.flush_of_fits fits, Journal.step, Journal.flush, fits,
    if_true]
  rw [m.queue, Letter.events, pieces_map]
  rfl

theorem step_flush_of_not_fits (fits : r.outbox.plan.batchFits = false) : r.step .flush = r := by
  simp [step, Outbox.step, Outbox.flush_of_not_fits fits, Journal.step, Journal.flush, fits]

theorem Mirrors.moves_hand (m : Mirrors plan before r) (batches : List (List Letter))
    (front : r.journal.queue = batches.flatten) (nonempty : ∀ batch ∈ batches, batch ≠ []) :
    Relation.ReflTransGen Move r (batches.foldl hand r) := by
  induction batches generalizing r with
  | nil => exact .refl
  | cons batch batches ih =>
    have hmove := m.move_hand front (nonempty batch (by simp))
    have hqueue : (r.hand batch).journal.queue = batches.flatten := by
      have h := r.journal.queue_foldl_hand [batch]
      rw [front, List.flatten_singleton, List.flatten_cons, List.drop_left] at h
      exact h
    exact .head hmove (ih (hmove.mirrors m) hqueue fun b hb => nonempty b (by simp [hb]))

theorem Mirrors.moves_flush (m : Mirrors plan before r) :
    Relation.ReflTransGen Move r (r.step .flush) := by
  cases fits : r.outbox.plan.batchFits with
  | true =>
    rw [m.step_flush fits]
    exact m.moves_hand _ (flatten_pieces _ _).symm fun batch hb => ne_nil_of_mem_pieces hb
  | false => rw [step_flush_of_not_fits fits]

/-- A shutdown retires the outbox, flushes it and closes the crew, unless its flush panics. -/
theorem Mirrors.moves_shutdown (m : Mirrors plan before r) :
    Relation.ReflTransGen Move r (r.step .shutdown) := by
  cases accepting : r.outbox.accepting with
  | true =>
    have hretire : Move r r.retire := .retire r
    cases fits : r.outbox.plan.batchFits with
    | true =>
      have hflush := (hretire.mirrors m).moves_flush
      have hclose := Move.close (r.retire.step .flush) r.retire.outbox.accepting_flush
        (r.retire.journal.queue_flush fits)
      have hstep : r.step .shutdown = (r.retire.step .flush).close := by
        simp only [step, Outbox.step, Outbox.shutdown_of_fits accepting fits, Journal.step,
          accepting, fits, Bool.and_self, if_true]
        rfl
      rw [hstep]
      exact (Relation.ReflTransGen.single hretire).trans (hflush.tail hclose)
    | false =>
      have hstep : r.step .shutdown = r.retire := by
        simp [step, Outbox.step, Outbox.shutdown_of_not_fits accepting fits, Journal.step, fits,
          retire, Outbox.retired]
      rw [hstep]
      exact .single hretire
  | false =>
    have h : r.step .shutdown = r := by
      simp [step, Outbox.step, Outbox.shutdown_of_shut accepting, Journal.step, accepting]
    rw [h]

theorem Mirrors.moves_start (m : Mirrors plan before r) :
    Relation.ReflTransGen Move r (r.step .start) := by
  have hwaiting : r.outbox.crew.waiting = r.journal.crew.waiting.map Letter.events := by
    rw [m.crew]
    rfl
  cases oldest : r.journal.crew.waiting with
  | nil =>
    have h : r.step .start = r := by
      simp [step, Outbox.step, Outbox.start, Journal.step, Journal.start, Crew.start?, oldest,
        hwaiting]
    rw [h]
  | cons batch waiting =>
    have hsame : r.outbox.crew.running.length < r.outbox.crew.workers ↔
        r.journal.crew.running.length < r.journal.crew.workers := by
      rw [m.crew]
      simp [Crew.map]
    by_cases free : r.journal.crew.running.length < r.journal.crew.workers
    · have h := Move.begin r batch waiting oldest free
      have hfree := hsame.mpr free
      simpa [step, Outbox.step, Outbox.start, Journal.step, Journal.start, Crew.start?, oldest,
        hwaiting, free, hfree, OutboxRun.begin] using Relation.ReflTransGen.single h
    · have hfull := mt hsame.mp free
      have h : r.step .start = r := by
        simp [step, Outbox.step, Outbox.start, Journal.step, Journal.start, Crew.start?, oldest,
          hwaiting, free, hfull]
      rw [h]

theorem Mirrors.moves_finish (m : Mirrors plan before r) (place : Nat) :
    Relation.ReflTransGen Move r (r.step (.finish place)) := by
  have hrunning : r.outbox.crew.running[place]? =
      r.journal.crew.running[place]?.map Letter.events := by
    rw [m.crew, Crew.map, List.getElem?_map]
  cases running : r.journal.crew.running[place]? with
  | none =>
    rw [running] at hrunning
    have h : r.step (.finish place) = r := by
      simp [step, Outbox.step, Outbox.finish_of_not_running hrunning, Journal.step, Journal.finish,
        running]
    rw [h]
  | some batch =>
    rw [running] at hrunning
    have h := Move.finish r place batch running
    simpa [step, Outbox.step, Outbox.finish_of_running hrunning, Journal.step, Journal.finish,
      running, OutboxRun.finish, answer, Letter.length_events]
      using Relation.ReflTransGen.single h

theorem Mirrors.moves_step (m : Mirrors plan before r) (s : Outbox.Step) :
    Relation.ReflTransGen Move r (r.step s) := by
  cases s with
  | submit event => exact .single (moves_submit r event)
  | flush => exact m.moves_flush
  | shutdown => exact m.moves_shutdown
  | start => exact m.moves_start
  | finish place => exact m.moves_finish place

/-- What every move keeps holds after any number of moves. -/
theorem invariant_of_moves {P : OutboxRun → Prop}
    (keep : ∀ {r r'}, Move r r' → Mirrors plan before r → P r → P r')
    (moves : Relation.ReflTransGen Move r r') (m : Mirrors plan before r) (h : P r) :
    P r' ∧ Mirrors plan before r' := by
  -- `keep` may use the mirror of the run before it, so both go through the moves together.
  induction moves with
  | refl => exact ⟨h, m⟩
  | tail _ move ih => exact ⟨keep move ih.2 ih.1, move.mirrors ih.2⟩

theorem Mirrors.step (m : Mirrors plan before r) (s : Outbox.Step) :
    Mirrors plan before (r.step s) :=
  (invariant_of_moves (fun _ _ _ => trivial) (m.moves_step s) m trivial).2

theorem mirrors_after (plan : OutboxPlan) (before : Collector) (steps : List Outbox.Step) :
    Mirrors plan before (after plan before steps) := by
  induction steps using List.reverseRecOn with
  | nil => exact .ofPlan plan before
  | append_singleton steps s ih =>
    rw [after_concat]
    exact ih.step s

theorem moves_after (plan : OutboxPlan) (before : Collector) (steps : List Outbox.Step) :
    Relation.ReflTransGen Move (ofPlan plan before) (after plan before steps) := by
  induction steps using List.reverseRecOn with
  | nil => exact .refl
  | append_singleton steps s ih =>
    rw [after_concat]
    exact ih.trans ((mirrors_after plan before steps).moves_step s)

/-- What a run begins with and every move keeps holds in the whole run. -/
theorem invariant_after {P : OutboxRun → Prop} (start : P (ofPlan plan before))
    (keep : ∀ {r r'}, Move r r' → Mirrors plan before r → P r → P r') (steps : List Outbox.Step) :
    P (after plan before steps) :=
  (invariant_of_moves keep (moves_after plan before steps) (.ofPlan plan before) start).1

end OutboxRun

end CallWatch
