import CallWatch.Proofs.Dispatch.Batches
import CallWatch.Proofs.Dispatch.Letters

/-! Conservation of events. In every run of an enabled outbox, each event that was submitted before
the shutdown is in exactly one place: sent, failed, dropped, in the queue, in a batch that the crew
has not ended, or lost with a batch whose post panicked. The counts of the outbox are the sizes of
these places, so they add up to the number of events. -/

namespace CallWatch

namespace Journal

/-- The letters that have failed: those of refused batches, and those of batches that could not be
written or were not taken by the collector. -/
def failed (j : Journal) : List Letter :=
  j.refused.flatten ++ j.under .failed

/-- The letters in batches that the crew has not ended. -/
def underway (j : Journal) : List Letter :=
  j.crew.tasks.flatten

/-- Where letters can be that were not ignored: sent, failed, dropped, in the queue, underway, or
lost. -/
def places (j : Journal) : List Letter :=
  j.under .sent ++ j.failed ++ j.dropped ++ j.queue ++ j.underway ++ j.under .lost

theorem ended_perm_under (j : Journal) :
    (j.ended.map (·.1)).flatten.Perm (j.under .sent ++ j.under .failed ++ j.under .lost) := by
  classical
  unfold under
  -- The lists share parts in different places, so each letter is counted, here and below.
  rw [List.perm_iff_count]
  intro letter
  induction j.ended with
  | nil => rfl
  | cons batch ended ih =>
    simp only [List.count_append] at ih
    cases hfate : Fate.ofAnswer batch.2 <;> simp [hfate, List.count_append, ih] <;> omega

end Journal

namespace OutboxRun

variable {plan : OutboxPlan} {before : Collector} {r : OutboxRun}

theorem Filed.accepted_perm (f : Filed r) :
    r.journal.accepted.Perm (r.journal.under .sent ++ r.journal.failed ++ r.journal.queue ++
      r.journal.underway ++ r.journal.under .lost) := by
  classical
  have hended := r.journal.ended_perm_under
  have hhanded := f.handed.flatten
  rw [List.flatten_append] at hhanded
  rw [f.accepted]
  rw [List.perm_iff_count] at hended hhanded ⊢
  intro letter
  have h1 := hended letter
  have h2 := hhanded letter
  simp only [List.count_append, Journal.failed, Journal.underway] at h1 h2 ⊢
  omega

theorem early_perm_places {steps : List Outbox.Step} (s : Sorted steps r) (f : Filed r) :
    (Outbox.early steps).Perm r.journal.places := by
  classical
  have haccepted := f.accepted_perm
  have hearly := s.early
  rw [List.perm_iff_count] at haccepted hearly ⊢
  intro letter
  have h1 := haccepted letter
  have h2 := hearly letter
  simp only [List.count_append, Journal.places] at h1 h2 ⊢
  omega

theorem Mirrors.stats (m : Mirrors plan before r) :
    r.outbox.stats = ⟨(r.journal.under .sent).length, r.journal.failed.length,
      r.journal.dropped.length, r.journal.queue.length⟩ := by
  rw [Outbox.stats, m.sent, m.failed, m.dropped, m.size_queue, Journal.failed, List.length_append]

theorem Mirrors.length_underway (m : Mirrors plan before r) :
    r.outbox.crew.tasks.flatten.length = r.journal.underway.length := by
  have htasks : r.outbox.crew.tasks = r.journal.crew.tasks.map Letter.events := by
    rw [m.crew, Crew.tasks, Crew.tasks, List.map_append]
    rfl
  rw [htasks, Journal.underway, List.length_flatten, List.length_flatten, List.map_map]
  congr 2
  funext batch
  exact Letter.length_events batch

/-- In every run of an enabled outbox, whatever the collector answers, the events submitted before
the shutdown add up: they are sent, failed, dropped, queued, in batches that the crew has not ended,
or lost with a batch whose post panicked. The counts are the sizes of these places, the queue is
within its capacity, and an event submitted after the shutdown is in none of the places. -/
theorem submitted_eq_sum (plan : OutboxPlan) (enabled : plan.enabled = true) (before : Collector)
    (steps : List Outbox.Step) :
    let r := after plan before steps
    let s := r.outbox.stats
    (Outbox.early steps).length = s.sent + s.failed + s.dropped + s.queued +
      r.outbox.crew.tasks.flatten.length + (r.journal.under .lost).length ∧
    s.queued ≤ plan.capacity ∧
    s = ⟨(r.journal.under .sent).length, r.journal.failed.length, r.journal.dropped.length,
      r.journal.queue.length⟩ ∧
    (Outbox.early steps).Perm r.journal.places ∧
    ∀ letter ∈ Outbox.late steps, letter ∉ r.journal.places := by
  intro r s
  have m := mirrors_after plan before steps
  have f := filed_after plan before steps
  have hplaces := early_perm_places (sorted_after plan enabled before steps) f
  have hstats : s = _ := m.stats
  refine ⟨?_, ?_, hstats, hplaces, ?_⟩
  · rw [hplaces.length_eq, hstats, m.length_underway, Journal.places]
    simp only [List.length_append, r]
  · have hbounded := f.bounded
    rw [m.plan_eq] at hbounded
    rw [hstats]
    exact hbounded
  · intro letter hlate hmem
    exact Outbox.not_mem_early_of_mem_late hlate (hplaces.mem_iff.mpr hmem)

/-- Two events are sent, one is dropped, one is lost, and two are underway after the shutdown. -/
theorem submitted_eq_sum_of_mixed_run :
    let plan : OutboxPlan :=
      ⟨true, 3, 2, 1, 0, "traffic", "batch", "health", ⟨600, 608, 64, ""⟩, by decide⟩
    let before : Collector :=
      ⟨fun n => if n = 0 then .status 200 else .panicked, fun _ => .status 200, #[], #[]⟩
    let event := fun operation => Event.ofOperation operation 2000
    let steps : List Outbox.Step := [.submit (event "a"), .submit (event "b"), .submit (event "c"),
      .submit (event "d"), .flush, .start, .finish 0, .submit (event "e"), .start, .finish 0,
      .submit (event "f"), .shutdown, .submit (event "g"), .start]
    plan.enabled = true ∧ (after plan before steps).outbox.stats = ⟨2, 0, 1, 0⟩ ∧
      6 = 2 + 0 + 1 + 0 + (after plan before steps).outbox.crew.tasks.flatten.length +
        ((after plan before steps).journal.under .lost).length := by
  intro plan before event steps
  have hstats : (after plan before steps).outbox.stats = ⟨2, 0, 1, 0⟩ := by decide +kernel
  have hearly : (Outbox.early steps).length = 6 := by decide +kernel
  have hsum := (submitted_eq_sum plan rfl before steps).1
  rw [hstats, hearly] at hsum
  exact ⟨rfl, hstats, hsum⟩

end OutboxRun

end CallWatch
