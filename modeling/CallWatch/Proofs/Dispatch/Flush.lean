import CallWatch.Proofs.Dispatch.Bodies
import CallWatch.Proofs.Dispatch.Rest

/-! Flushes. A flush goes in turns, each of which hands over the front of the queue, until one finds
fewer events than a batch holds. All batches but the last are full, together they are the queue, and
once the workers have ended them, each that can be written was posted once. Where no memory for a
batch can be asked for, a flush panics in its first turn. -/

namespace CallWatch

section Pieces

variable {α : Type} {size : Nat} {items : List α}

end Pieces

namespace Outbox

variable {o : Outbox}

/-- The outbox with more batches before its crew, behind those that wait. -/
def queued (o : Outbox) (batches : List (List Event)) : Outbox :=
  { o with crew := { o.crew with waiting := o.crew.waiting ++ batches } }

/-- What an outbox and the collector come to in some steps. -/
def run (o : Outbox) (collector : Collector) (steps : List Step) : Outbox × Collector :=
  steps.foldl (fun r s => r.1.step r.2 s) (o, collector)

/-- What the workers did between two moments: some batches ended, of which the collector was sent
those that can be written, and the others are still in the crew. -/
structure Worked (ended : List (List Event)) (before after : Outbox × Collector) : Prop where
  plan : after.1.plan = before.1.plan
  tasks : (ended ++ after.1.crew.tasks).Perm before.1.crew.tasks
  posts : after.2.posts.toList =
    before.2.posts.toList ++ ended.filterMap before.1.plan.post?

namespace Worked

variable {ended more : List (List Event)} {first second third : Outbox × Collector}

theorem refl (r : Outbox × Collector) : Worked [] r r :=
  ⟨rfl, .refl _, (List.append_nil _).symm⟩

theorem trans (h : Worked ended first second) (h' : Worked more second third) :
    Worked (ended ++ more) first third where
  plan := h'.plan.trans h.plan
  tasks := by
    rw [List.append_assoc]
    exact (h'.tasks.append_left ended).trans h.tasks
  posts := by
    rw [h'.posts, h.posts, h.plan, List.append_assoc, List.filterMap_append]

end Worked

end Outbox

end CallWatch
