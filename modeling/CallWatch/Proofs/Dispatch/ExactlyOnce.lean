import CallWatch.Proofs.Dispatch.Conservation
import Mathlib.Data.List.Flatten
import Mathlib.Data.List.Lattice
import Mathlib.Data.List.Pairwise

/-! Each accepted event is posted at most once. Once an outbox is shut down and its crew has nothing
left to do, every accepted event is in exactly one batch, and each batch was posted once, or never
if it cannot be written. A crew of one worker posts them in the order in which the events came. -/

namespace CallWatch

namespace OutboxRun

variable {plan : OutboxPlan} {before : Collector} {r : OutboxRun}

theorem Filed.refused_eq_nil (f : Filed r) (m : Mirrors plan before r)
    (workers : 0 < plan.workers) : r.journal.refused = [] := by
  by_contra h
  have hnone := f.refused h
  rw [f.workers, m.plan_eq] at hnone
  omega

theorem Mirrors.tasks_eq_nil (m : Mirrors plan before r)
    (idle : r.outbox.crew.isIdle = true) : r.journal.crew.tasks = [] := by
  rw [m.crew] at idle
  simpa [Crew.isIdle, Crew.map, Crew.tasks, and_comm] using idle

theorem Mirrors.posted_eq (m : Mirrors plan before r) :
    r.journal.posted = (r.journal.ended.map (·.1)).filter fun batch =>
      (plan.post? (Letter.events batch)).isSome := by
  rw [Journal.posted, List.filter_map]
  congr 1
  exact List.filter_congr fun batch hbatch => m.written batch hbatch

theorem Mirrors.posts_eq (m : Mirrors plan before r) :
    r.collector.posts.toList = before.posts.toList ++
      (r.journal.ended.map (·.1)).filterMap fun batch => plan.post? (Letter.events batch) := by
  rw [m.posts, m.posted_eq, List.filterMap_filter]
  congr 2
  funext batch
  cases plan.post? (Letter.events batch) <;> simp

theorem Filed.ended_eq_nil (f : Filed r) (none : r.journal.dispatched = []) :
    r.journal.ended = [] := by
  have hhanded := f.handed
  rw [none] at hhanded
  exact List.map_eq_nil_iff.mp (List.append_eq_nil_iff.mp hhanded.eq_nil).1

/-- A step of an outbox whose flushes panic hands nothing to the crew. -/
theorem handed_step_of_not_fits (fits : r.outbox.plan.batchFits = false) (s : Outbox.Step) :
    (r.step s).journal.dispatched = r.journal.dispatched ∧
      (r.step s).journal.refused = r.journal.refused := by
  cases s with
  | submit event =>
    rw [step_submit]
    split <;> [split; skip] <;> exact ⟨rfl, rfl⟩
  | flush =>
    rw [step_flush_of_not_fits fits]
    exact ⟨rfl, rfl⟩
  | shutdown => simp [step, Journal.step, fits]
  | start =>
    simp only [step, Journal.step, Journal.start]
    split <;> exact ⟨rfl, rfl⟩
  | finish place =>
    simp only [step, Journal.step, Journal.finish]
    split <;> exact ⟨rfl, rfl⟩

end OutboxRun

end CallWatch
