import CallWatch.Proofs.Dispatch.Batches

/-! What the workers do when they deliver all batches is a run of their steps, and with any workers
at all it ends every batch. So each run can be carried on until nothing is left to do. -/

namespace CallWatch

namespace Outbox

theorem start_of_some {o : Outbox} {crew : Crew (List Event)} (h : o.crew.start? = some crew) :
    o.start = { o with crew } := by
  rw [start, h]

/-- An outbox that delivers its batches is as accepting as before. -/
theorem accepting_drain (o : Outbox) (collector : Collector) :
    (o.drain collector).1.accepting = o.accepting := by
  fun_induction drain o collector with
  | case1 o collector running _ ih =>
    rw [ih, finish_of_running (List.getElem?_eq_getElem running), settle_eq]
  | case2 o collector running crew start _ ih => exact ih
  | case3 o collector running start => rfl

/-- Workers that deliver for as long as they can leave nothing to do. -/
theorem isIdle_drain (o : Outbox) (workers : 0 < o.crew.workers) (collector : Collector) :
    (o.drain collector).1.crew.isIdle = true := by
  fun_induction drain o collector with
  | case1 o collector running _ ih =>
    refine ih ?_
    rw [crew_finish]
    exact workers
  | case2 o collector running crew start _ ih =>
    obtain ⟨batch, waiting, -, -, rfl⟩ := Crew.start?_eq_some start
    exact ih workers
  | case3 o collector running start =>
    have hrunning : o.crew.running = [] := List.length_eq_zero_iff.mp (by omega)
    have hwaiting := Crew.waiting_eq_nil start (by rw [hrunning]; exact workers)
    simp [Crew.isIdle, hrunning, hwaiting]

theorem drain_of_idle {o : Outbox} (idle : o.crew.isIdle = true) (collector : Collector) :
    o.drain collector = (o, collector) := by
  obtain ⟨hwaiting, hrunning⟩ : o.crew.waiting = [] ∧ o.crew.running = [] := by
    simpa [Crew.isIdle] using idle
  have hstart : o.crew.start? = none := by simp [Crew.start?, hwaiting]
  rw [drain, dif_neg (by simp [hrunning])]
  split
  · next crew start => simp [hstart] at start
  · rfl

end Outbox

namespace OutboxRun

/-- What the workers do when they deliver all batches is a run of their steps. -/
theorem exists_work_of_drain (r : OutboxRun) :
    ∃ work : List Outbox.Step, (∀ s ∈ work, s.isWork = true) ∧
      ((work.foldl step r).outbox, (work.foldl step r).collector) =
        r.outbox.drain r.collector := by
  obtain ⟨o, collector, journal⟩ := r
  show ∃ work : List Outbox.Step, _ ∧ _ = o.drain collector
  -- On the recursion by which the workers go on: a batch ends, or begins, or neither can happen.
  fun_induction Outbox.drain o collector generalizing journal with
  | case1 o collector running _ ih =>
    obtain ⟨work, hall, hdrain⟩ := ih (step ⟨o, collector, journal⟩ (.finish 0)).journal
    exact ⟨.finish 0 :: work, List.forall_mem_cons.mpr ⟨rfl, hall⟩, hdrain⟩
  | case2 o collector running crew start _ ih =>
    obtain ⟨work, hall, hdrain⟩ := ih (step ⟨o, collector, journal⟩ .start).journal
    refine ⟨.start :: work, List.forall_mem_cons.mpr ⟨rfl, hall⟩, ?_⟩
    have hstep : step ⟨o, collector, journal⟩ .start =
        ⟨{ o with crew }, collector, (step ⟨o, collector, journal⟩ .start).journal⟩ := by
      rw [step, Outbox.step, Outbox.start_of_some start]
    rw [List.foldl_cons, hstep]
    exact hdrain
  | case3 o collector running start => exact ⟨[], List.forall_mem_nil _, rfl⟩

theorem Mirrors.isIdle_drain {plan : OutboxPlan} {before : Collector} {r : OutboxRun}
    (m : Mirrors plan before r) (f : Filed r) (workers : 0 < plan.workers)
    (collector : Collector) : (r.outbox.drain collector).1.crew.isIdle = true := by
  have hworkers := f.workers
  rw [m.plan_eq] at hworkers
  refine r.outbox.isIdle_drain ?_ collector
  rw [m.crew]
  exact hworkers.symm ▸ workers

/-- Every run can be carried on by the workers alone until each batch has ended. -/
theorem exists_idle_after (plan : OutboxPlan) (workers : 0 < plan.workers) (before : Collector)
    (steps : List Outbox.Step) : ∃ work : List Outbox.Step, (∀ s ∈ work, s.isWork = true) ∧
      (after plan before (steps ++ work)).outbox.crew.isIdle = true := by
  have m := mirrors_after plan before steps
  have f := filed_after plan before steps
  obtain ⟨work, hall, hdrain⟩ := (after plan before steps).exists_work_of_drain
  refine ⟨work, hall, ?_⟩
  have hidle := m.isIdle_drain f workers (after plan before steps).collector
  rw [← hdrain] at hidle
  rw [after, List.foldl_append]
  exact hidle

end OutboxRun

end CallWatch
