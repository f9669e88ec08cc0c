import CallWatch.Proofs.Agent.Run
import CallWatch.Proofs.Dispatch.Bodies

/-! Delivery from end to end. When an agent is shut down, the collector has been sent every event
that the agent's handlers submitted, each once, but for those that found the queue full, unless no
memory for a batch can be asked for. After that nothing is sent or counted any more. -/

namespace CallWatch

namespace Agent

variable {a : Agent} {collector : Collector} {settings : Settings} {machine : Machine}
  {before : Collector} {offers : List Offer}

/-- A first shutdown shuts the outbox down and, if that returns, lets the workers deliver what they
have. -/
theorem shutdown_of_going (going : a.stopped = false) (horizon : Nat) (collector : Collector) :
    (a.shutdown horizon collector).1 = a.outbox.shutdown.1 ∧
      (a.shutdown horizon collector).2.1.stopped = true ∧
      ((a.shutdown horizon collector).2.1.outbox, (a.shutdown horizon collector).2.2) =
        match a.outbox.shutdown.1 with
        | .returned => a.outbox.shutdown.2.2.drain collector
        | .panicked => (a.outbox.shutdown.2.2, collector) := by
  rw [shutdown, going]
  generalize a.outbox.shutdown = shut
  obtain ⟨ending, job, outbox⟩ := shut
  cases ending with
  | returned => exact ⟨rfl, rfl, rfl⟩
  | panicked => exact ⟨rfl, rfl, rfl⟩

/-- After a shutdown the outbox is at rest. Unless the shutdown panicked, what the outbox took was
posted in batches; otherwise it is still in the queue. -/
theorem AtWork.shutdown (h : AtWork settings machine before offers a collector) (horizon : Nat) :
    let plan := OutboxPlan.ofSettings settings machine
    let ended := a.shutdown horizon collector
    ended.2.1.stopped = true ∧ ended.2.1.outbox.AtRest ∧
    ended.2.1.outbox.dropped = (Offer.missed offers).length ∧
    (plan.batchFits = true → ended.1 = .returned ∧ ended.2.1.outbox.queue = #[] ∧
      ∃ batches : List (List Event), (Offer.taken offers).Perm batches.flatten ∧
        ended.2.2.posts.toList.filter plan.isOwn =
          before.posts.toList.filter plan.isOwn ++ batches.filterMap plan.post? ∧
        ended.2.1.outbox.sent + ended.2.1.outbox.failed = batches.flatten.length) ∧
    (plan.batchFits = false → ended.1 = .panicked ∧
      ended.2.1.outbox.queue.toList = Offer.taken offers ∧
      ended.2.2.posts.toList.filter plan.isOwn = before.posts.toList.filter plan.isOwn ∧
      ended.2.1.outbox.sent = 0 ∧ ended.2.1.outbox.failed = 0) := by
  intro plan ended
  obtain ⟨hending, hstopped, hended⟩ := shutdown_of_going h.going horizon collector
  have hplan : a.outbox.plan = plan := h.accounted.plan_eq
  have hshut : OutboxRun.Accounted plan before offers a.outbox.shutdown.2.2 collector :=
    h.accounted.step (s := .shutdown) rfl
  have hretired := a.outbox.accepting_shutdown
  cases fits : plan.batchFits with
  | true =>
    have hreturned : a.outbox.shutdown.1 = .returned := by
      rw [Outbox.shutdown_of_fits h.accepting (by rwa [hplan])]
    rw [hreturned] at hending hended
    -- The crew is closed by now, but its workers go on until nothing waits.
    have hdrained := hshut.drain
    have hidle := hshut.isIdle_drain (Nat.le_max_right ..)
    have hclosed := (a.outbox.shutdown.2.2.accepting_drain collector).trans hretired
    simp only [← hended] at hdrained hidle hclosed
    obtain ⟨hqueue, hbatches⟩ := hdrained.settled (Nat.le_max_right ..) fits hclosed hidle
    have hdead : ended.2.1.outbox.isLive = false := by
      rw [Outbox.isLive, hclosed, Bool.and_false]
    exact ⟨hstopped, ⟨hdead, fun _ => hqueue, hidle⟩, hdrained.dropped_eq,
      fun _ => ⟨hending, hqueue, hbatches⟩, fun full => Bool.noConfusion full⟩
  | false =>
    have hpanicked : a.outbox.shutdown.1 = .panicked := by
      rw [Outbox.shutdown_of_not_fits h.accepting (by rwa [hplan])]
    rw [hpanicked] at hending hended
    obtain ⟨houtbox, hcollector⟩ := Prod.mk.inj hended
    rw [← houtbox] at hretired
    have hheld : OutboxRun.Accounted plan before offers ended.2.1.outbox ended.2.2 := by
      simpa only [ended, houtbox, hcollector] using hshut
    obtain ⟨hqueue, hposts, hsent, hfailed, hidle⟩ := hheld.held_eq fits
    have hdead : ended.2.1.outbox.isLive = false := by
      rw [Outbox.isLive, hretired, Bool.and_false]
    have hempty (again : ended.2.1.outbox.plan.batchFits = true) :
        ended.2.1.outbox.queue = #[] := by
      rw [hheld.plan_eq, fits] at again
      exact Bool.noConfusion again
    exact ⟨hstopped, ⟨hdead, hempty, hidle⟩, hheld.dropped_eq, fun room => Bool.noConfusion room,
      fun _ => ⟨hending, hqueue, hposts, hsent, hfailed⟩⟩

end Agent

end CallWatch
