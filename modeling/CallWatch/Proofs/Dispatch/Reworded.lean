import CallWatch.Proofs.Dispatch.Letters

/-! Runs of an outbox with other events, and in front of another collector. What the events say and
what the collector answers decides only the answer to each batch: which letters enter the queue,
which of them make up a batch, and when a batch begins and ends, is the same in both runs. -/

namespace CallWatch

/-- The letter with the event that an edit gives its number. -/
def Letter.reword (edit : Nat → Event → Event) (letter : Letter) : Letter :=
  ⟨letter.number, edit letter.number letter.event⟩

namespace Outbox

def Step.reword (f : Event → Event) : Step → Step
  | submit event => submit (f event)
  | s => s

/-- Some steps with other events, by the numbers under which they are submitted. -/
def reword (edit : Nat → Event → Event) (steps : List Step) : List Step :=
  edited (·.event?.isSome) (fun number => Step.reword (edit number)) 0 steps

theorem reword_concat (edit : Nat → Event → Event) (steps : List Step) (s : Step) :
    reword edit (steps ++ [s]) = reword edit steps ++ [s.reword (edit (letters steps).length)] := by
  rw [reword, edited_concat, Nat.zero_add, ← length_letters]
  rfl

end Outbox

namespace Journal

/-- What a journal says apart from the answers, with other letters. -/
def outline (f : Letter → Letter) (j : Journal) : Journal where
  submitted := j.submitted
  accepted := j.accepted.map f
  dropped := j.dropped.map f
  ignored := j.ignored.map f
  queue := j.queue.map f
  crew := j.crew.map (List.map f)
  dispatched := j.dispatched.map (List.map f)
  refused := j.refused.map (List.map f)
  ended := j.ended.map fun batch => (batch.1.map f, none)

variable (f : Letter → Letter) (j : Journal)

theorem outline_accept (letter : Letter) :
    ({ j with submitted := j.submitted + 1, accepted := j.accepted ++ [letter]
              queue := j.queue ++ [letter] } : Journal).outline f =
      { j.outline f with
        submitted := j.submitted + 1, accepted := (j.outline f).accepted ++ [f letter]
        queue := (j.outline f).queue ++ [f letter] } := by
  simp [outline]

theorem outline_drop (letter : Letter) :
    ({ j with submitted := j.submitted + 1, dropped := j.dropped ++ [letter] } : Journal).outline
        f =
      { j.outline f with
        submitted := j.submitted + 1, dropped := (j.outline f).dropped ++ [f letter] } := by
  simp [outline]

theorem outline_ignore (letter : Letter) :
    ({ j with submitted := j.submitted + 1, ignored := j.ignored ++ [letter] } : Journal).outline
        f =
      { j.outline f with
        submitted := j.submitted + 1, ignored := (j.outline f).ignored ++ [f letter] } := by
  simp [outline]

theorem outline_close :
    ({ j with crew := j.crew.close } : Journal).outline f =
      { j.outline f with crew := (j.outline f).crew.close } :=
  rfl

theorem outline_hand (batch : List Letter) :
    (j.hand batch).outline f = (j.outline f).hand (batch.map f) := by
  have hcrew := j.crew.execute_map (List.map f) batch
  simp only [hand, outline, hcrew]
  cases j.crew.execute batch <;> simp [Except.map]

theorem outline_flush (plan : OutboxPlan) :
    (j.flush plan).outline f = (j.outline f).flush plan := by
  have hfoldl (batches : List (List Letter)) (j : Journal) :
      (batches.foldl hand j).outline f = (batches.map (List.map f)).foldl hand (j.outline f) := by
    induction batches generalizing j with
    | nil => rfl
    | cons batch batches ih =>
      rw [List.foldl_cons, ih, outline_hand, List.map_cons, List.foldl_cons]
  unfold flush
  split
  · rw [hfoldl, ← pieces_map]
    rfl
  · rfl

theorem outline_start : j.start.outline f = (j.outline f).start := by
  have hcrew := j.crew.start?_map (List.map f)
  simp only [start, outline, hcrew]
  cases j.crew.start? <;> rfl

theorem outline_finish (place : Nat) (answer : List Event → Option Reply) :
    (j.finish place answer).outline f = (j.outline f).finish place fun _ => none := by
  simp only [finish, outline, Crew.map, List.getElem?_map]
  cases j.crew.running[place]? with
  | none => rfl
  | some batch => simp [Crew.freed, List.eraseIdx_map]

end Journal

namespace OutboxRun

variable {plan : OutboxPlan} {before before' : Collector} {r r' : OutboxRun}
  {edit : Nat → Event → Event}

theorem submitted_after (plan : OutboxPlan) (before : Collector) (steps : List Outbox.Step) :
    (after plan before steps).journal.submitted = (Outbox.letters steps).length := by
  induction steps using List.reverseRecOn with
  | nil => rfl
  | append_singleton steps s ih =>
    have hquiet (s : Outbox.Step) (hs : s.event? = none) :=
      congrArg (·.1) ((after plan before steps).journal.sorting_step
        (after plan before steps).outbox (after plan before steps).collector s hs)
    rw [after_concat, Outbox.letters_concat, List.length_append, ← ih]
    cases s with
    | submit event =>
      rw [step_submit]
      split <;> [split; skip] <;> rfl
    | flush => exact hquiet .flush rfl
    | shutdown => exact hquiet .shutdown rfl
    | start => exact hquiet .start rfl
    | finish place => exact hquiet (.finish place) rfl

/-- The second run is the first with other events, apart from the answers. -/
structure Rewords (edit : Nat → Event → Event) (r r' : OutboxRun) : Prop where
  accepting : r'.outbox.accepting = r.outbox.accepting
  journal : r'.journal.outline id = r.journal.outline (Letter.reword edit)

theorem Rewords.ended (h : Rewords edit r r') : r'.journal.ended.map (·.1) =
    (r.journal.ended.map (·.1)).map (List.map (Letter.reword edit)) := by
  simpa [Journal.outline, Function.comp_def] using congrArg (·.ended.map (·.1)) h.journal

theorem Rewords.tasks (h : Rewords edit r r') :
    r'.journal.crew.tasks = r.journal.crew.tasks.map (List.map (Letter.reword edit)) := by
  simpa [Journal.outline, Crew.tasks_map] using congrArg (·.crew.tasks) h.journal

theorem Rewords.refused (h : Rewords edit r r') :
    r'.journal.refused = r.journal.refused.map (List.map (Letter.reword edit)) := by
  simpa [Journal.outline] using congrArg (·.refused) h.journal

theorem Rewords.queue (h : Rewords edit r r') :
    r'.journal.queue = r.journal.queue.map (Letter.reword edit) := by
  simpa [Journal.outline] using congrArg (·.queue) h.journal

theorem Rewords.submit (h : Rewords edit r r') (m : Mirrors plan before r)
    (m' : Mirrors plan before' r') (event : Event) :
    Rewords edit (r.step (.submit event))
      (r'.step (.submit (edit r.journal.submitted event))) := by
  have hlive : r'.outbox.isLive = r.outbox.isLive := by
    rw [Outbox.isLive, m'.plan_eq, h.accepting, Outbox.isLive, m.plan_eq]
  have hsize : r'.outbox.queue.size = r.outbox.queue.size := by
    rw [m'.size_queue, m.size_queue, h.queue, List.length_map]
  have hsubmitted : r'.journal.submitted = r.journal.submitted := congrArg (·.submitted) h.journal
  rw [step_submit, step_submit, hlive, hsize, m.plan_eq, m'.plan_eq]
  split <;> [split; skip]
  · refine ⟨h.accepting, ?_⟩
    rw [accept, accept, Journal.outline_accept, Journal.outline_accept, h.journal, hsubmitted]
    rfl
  · refine ⟨h.accepting, ?_⟩
    rw [drop, drop, Journal.outline_drop, Journal.outline_drop, h.journal, hsubmitted]
    rfl
  · refine ⟨h.accepting, ?_⟩
    rw [ignore, ignore, Journal.outline_ignore, Journal.outline_ignore, h.journal, hsubmitted]
    rfl

theorem Rewords.shutdown (h : Rewords edit r r') (hplan : r'.outbox.plan = r.outbox.plan) :
    Rewords edit (r.step .shutdown) (r'.step .shutdown) := by
  refine ⟨by simp only [OutboxRun.step, Outbox.accepting_step, h.accepting], ?_⟩
  simp only [OutboxRun.step, Journal.step, h.accepting, hplan]
  split
  · rw [Journal.outline_close, Journal.outline_close, Journal.outline_flush, Journal.outline_flush,
      h.journal]
  · exact h.journal

/-- Both runs do the same at a step, but for the answer to a batch that ends. -/
theorem Rewords.step (h : Rewords edit r r') (m : Mirrors plan before r)
    (m' : Mirrors plan before' r') (s : Outbox.Step) :
    Rewords edit (r.step s) (r'.step (s.reword (edit r.journal.submitted))) := by
  have hplan : r'.outbox.plan = r.outbox.plan := m'.plan_eq.trans m.plan_eq.symm
  have haccepting (s : Outbox.Step) :
      (r'.step s).outbox.accepting = (r.step s).outbox.accepting := by
    simp only [OutboxRun.step, Outbox.accepting_step, h.accepting]
  cases s with
  | submit event => exact h.submit m m' event
  | flush =>
    refine ⟨haccepting .flush, ?_⟩
    simp only [OutboxRun.step, Journal.step, Outbox.Step.reword, Journal.outline_flush, hplan,
      h.journal]
  | shutdown => exact h.shutdown hplan
  | start =>
    refine ⟨haccepting .start, ?_⟩
    simp only [OutboxRun.step, Journal.step, Outbox.Step.reword, Journal.outline_start, h.journal]
  | finish place =>
    refine ⟨haccepting (.finish place), ?_⟩
    simp only [OutboxRun.step, Journal.step, Outbox.Step.reword, Journal.outline_finish, h.journal]

/-- What is submitted in place of the events of a run, and what the collector answers, changes
nothing but the letters' events and the answers. -/
theorem rewords_after (plan : OutboxPlan) (before before' : Collector) (edit : Nat → Event → Event)
    (steps : List Outbox.Step) :
    Rewords edit (after plan before steps) (after plan before' (Outbox.reword edit steps)) := by
  induction steps using List.reverseRecOn with
  | nil => exact ⟨rfl, rfl⟩
  | append_singleton steps s ih =>
    have m := mirrors_after plan before steps
    have m' := mirrors_after plan before' (Outbox.reword edit steps)
    rw [Outbox.reword_concat, after_concat, after_concat, ← submitted_after plan before steps]
    exact ih.step m m' s

end OutboxRun

end CallWatch
