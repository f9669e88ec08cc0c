import CallWatch.Proofs.Dispatch.ShiftRun

/-! Each accepted task has its turn, once. Workers can always go on until they are at rest, and
then, as long as a worker is left beside the tasks that are held at closed gates, every other task
that was accepted has ended. A task that panics is to its worker, and to all other tasks, like one
that returns. -/

namespace CallWatch

/-- The task that an edit puts in place of one. -/
def Slip.recast (edit : Nat → Task → Task) (slip : Slip) : Slip :=
  ⟨slip.number, edit slip.number slip.task⟩

namespace Shift

def Step.recast (f : Task → Task) : Step → Step
  | execute task => execute (f task)
  | s => s

/-- Some steps with other tasks, by the numbers under which they are given. -/
def recast (edit : Nat → Task → Task) (steps : List Step) : List Step :=
  edited (·.task?.isSome) (fun number => Step.recast (edit number)) 0 steps

theorem recast_concat (edit : Nat → Task → Task) (steps : List Step) (s : Step) :
    recast edit (steps ++ [s]) = recast edit steps ++ [s.recast (edit (slips steps).length)] := by
  rw [recast, edited_concat, Nat.zero_add, slips, length_numbered]
  rfl

end Shift

namespace ShiftRun

variable {workers : Nat} {steps : List Shift.Step} {r r' : ShiftRun}

section Recast

variable {edit : Nat → Task → Task}

/-- A run with other tasks of the same numbers. -/
def recast (edit : Nat → Task → Task) (r : ShiftRun) : ShiftRun where
  crew := r.crew.map (Slip.recast edit)
  released := r.released
  given := r.given
  accepted := r.accepted.map (Slip.recast edit)
  refused := r.refused.map (Slip.recast edit)
  begun := r.begun.map (Slip.recast edit)
  ended := r.ended.map (Slip.recast edit)
  exited := r.exited

/-- Whether an edit puts in the place of each task one that can end at the same gates: one that
waits for one that waits, and one that returns or panics at once for another. -/
def Keeps (edit : Nat → Task → Task) : Prop :=
  ∀ number gateOpen task, (edit number task).canEnd gateOpen = task.canEnd gateOpen

theorem step_recast (keeps : Keeps edit) (r : ShiftRun) (s : Shift.Step) :
    (r.recast edit).step (s.recast (edit r.given)) = (r.step s).recast edit := by
  cases s with
  | execute task =>
    have hcrew := r.crew.execute_map (Slip.recast edit) ⟨r.given, task⟩
    simp only [Slip.recast] at hcrew
    simp only [Shift.Step.recast, step, execute, recast, hcrew]
    cases r.crew.execute ⟨r.given, task⟩ <;> simp [Except.map, Slip.recast]
  | release which => rfl
  | shutdown => rfl
  | start =>
    have hcrew := r.crew.start?_map (Slip.recast edit)
    simp only [Shift.Step.recast, step, start, recast, hcrew]
    cases r.crew.start? <;> simp [Crew.map]
  | finish place =>
    have hable (slip : Slip) : (slip.recast edit).canEnd r.released = slip.canEnd r.released :=
      keeps slip.number _ slip.task
    simp only [Shift.Step.recast, step, finish, recast, Crew.map, List.getElem?_map]
    cases r.crew.running[place]? with
    | none => rfl
    | some slip =>
      simp only [Option.map_some, hable]
      split <;> simp [Crew.freed, List.eraseIdx_map]
  | leave =>
    have hleaves : ((r.recast edit).crew.isLeaving = true ∧
        (r.recast edit).crew.running.length + (r.recast edit).exited <
          (r.recast edit).crew.workers) ↔
        (r.crew.isLeaving = true ∧ r.crew.running.length + r.exited < r.crew.workers) := by
      simp [recast, Crew.isLeaving, Crew.map]
    simp only [Shift.Step.recast, step, leave, hleaves]
    split <;> rfl

/-- What the tasks of a run do, apart from when they can end, changes nothing else in the run. -/
theorem after_recast (keeps : Keeps edit) (workers : Nat) (steps : List Shift.Step) :
    after workers (Shift.recast edit steps) = (after workers steps).recast edit := by
  induction steps using List.reverseRecOn with
  | nil => rfl
  | append_singleton steps s ih =>
    rw [Shift.recast_concat, after_concat, after_concat, ih,
      ← (tracked_after workers steps).given]
    exact step_recast keeps _ s

end Recast

/-- Whether nothing is left that the workers can do. -/
def AtRest (r : ShiftRun) : Prop :=
  ∀ s : Shift.Step, s.isWork = true → r.step s = r

theorem atRest_iff : r.AtRest ↔
    r.crew.start? = none ∧ ∀ slip ∈ r.crew.running, slip.canEnd r.released = false := by
  constructor
  · intro rest
    constructor
    · cases hstart : r.crew.start? with
      | none => rfl
      | some crew =>
        have hless := Crew.load_start hstart
        have hsame := congrArg (·.crew) (rest .start rfl)
        simp only [step, start, hstart] at hsame
        rw [hsame] at hless
        exact absurd hless (Nat.lt_irrefl _)
    · intro slip hslip
      obtain ⟨place, hplace, rfl⟩ := List.getElem_of_mem hslip
      by_contra able
      rw [Bool.not_eq_false] at able
      have hless := Crew.load_freed hplace
      have hsame := congrArg (·.crew) (rest (.finish place) rfl)
      simp only [step, finish, List.getElem?_eq_getElem hplace, able, if_true,
        Crew.finish_eq] at hsame
      rw [hsame] at hless
      exact absurd hless (Nat.lt_irrefl _)
  · rintro ⟨hstart, hfinish⟩ s work
    cases s with
    | start => rw [step, start, hstart]
    | finish place =>
      rw [step, finish]
      split
      · next slip running => rw [hfinish slip (List.mem_of_getElem? running), if_neg (by decide)]
      · rfl
    | _ => simp [Shift.Step.isWork] at work

/-- The accepted tasks that wait at closed gates, or will. -/
def held (r : ShiftRun) : List Slip :=
  r.accepted.filter fun slip => !slip.canEnd r.released

/-- A step of the workers changes nothing, or brings them nearer to rest. -/
theorem load_step_lt (r : ShiftRun) {s : Shift.Step} (work : s.isWork = true) :
    r.step s = r ∨ (r.step s).crew.load < r.crew.load := by
  generalize hstep : r.step s = r'
  have move := r.move_step s
  rw [hstep] at move
  cases move with
  | start slip waiting oldest free =>
    refine .inr ?_
    simp only [Crew.load, oldest, List.length_cons, List.length_append, List.length_nil]
    omega
  | finish place slip running able =>
    exact .inr (Crew.load_freed (List.getElem?_eq_some_iff.mp running).1)
  | idle s work => exact .inl rfl
  | _ => simp [Shift.Step.isWork] at work

/-- Each run can be carried on by the workers alone until they are at rest. -/
theorem exists_rest_after (workers : Nat) (steps : List Shift.Step) :
    ∃ work : List Shift.Step, (∀ s ∈ work, s.isWork = true) ∧
      (after workers (steps ++ work)).AtRest ∧
      (after workers (steps ++ work)).accepted = (after workers steps).accepted ∧
      (after workers (steps ++ work)).released = (after workers steps).released := by
  obtain ⟨work, hall, begun, hafter⟩ := (after workers steps).exists_work
  obtain ⟨hstart, hfinish⟩ :=
    Crew.atRest_work (Slip.canEnd (after workers steps).released) Slip.ending
      (after workers steps).crew
  refine ⟨work, hall, atRest_iff.mpr ?_, ?_⟩
  · rw [after_append, hafter]
    exact ⟨hstart, hfinish⟩
  · rw [after_append, hafter]
    exact ⟨rfl, rfl⟩

theorem Tracked.takes_iff (h : Tracked workers steps r) :
    r.crew.takes ↔ 0 < workers ∧ .shutdown ∉ steps := by
  rw [Crew.takes, h.isOpen, h.staff, and_comm]

theorem Tracked.isOk_execute (h : Tracked workers steps r) (slip : Slip) :
    (r.crew.execute slip).isOk = true ↔ 0 < workers ∧ .shutdown ∉ steps := by
  rw [← h.takes_iff]
  by_cases takes : r.crew.takes
  · simp [Crew.execute_of_takes takes, takes, Except.isOk, Except.toBool]
  · simp [Crew.execute_of_not_takes takes, takes, Except.isOk, Except.toBool]

theorem Tracked.perm_accepted (h : Tracked workers steps r) :
    r.accepted.Perm (r.ended ++ r.crew.tasks) := by
  rw [h.begun, Crew.tasks, ← List.append_assoc]
  exact h.ended.symm.append_right _

theorem Tracked.filter_ended (h : Tracked workers steps r) :
    r.ended.filter (Slip.canEnd r.released) = r.ended :=
  List.filter_eq_self.mpr h.able

/-- At rest, a worker is busy only with a task that is held. -/
theorem Tracked.length_running_le (h : Tracked workers steps r) (rest : r.AtRest) :
    r.crew.running.length ≤ r.held.length := by
  have hrunning : r.crew.running.filter (fun slip => !slip.canEnd r.released) =
      r.crew.running :=
    List.filter_eq_self.mpr fun slip hslip => by simp [(atRest_iff.mp rest).2 slip hslip]
  have hheld := (h.perm_accepted.filter fun slip => !slip.canEnd r.released).length_eq
  rw [Crew.tasks, List.filter_append, List.filter_append, hrunning] at hheld
  simp only [List.length_append] at hheld
  rw [held, hheld]
  omega

/-- At rest with nothing that waits for a worker, the tasks that ended are those that can. -/
theorem Tracked.ended_perm (h : Tracked workers steps r) (rest : r.AtRest)
    (waiting : r.crew.waiting = []) :
    r.ended.Perm (r.accepted.filter (Slip.canEnd r.released)) := by
  have hrunning : r.crew.running.filter (Slip.canEnd r.released) = [] :=
    List.filter_eq_nil_iff.mpr fun slip hslip => by simp [(atRest_iff.mp rest).2 slip hslip]
  have hended := h.perm_accepted.filter (Slip.canEnd r.released)
  rw [Crew.tasks, waiting, List.append_nil, List.filter_append, h.filter_ended, hrunning,
    List.append_nil] at hended
  exact hended.symm

theorem Tracked.ended_perm_of_spare (h : Tracked workers steps r) (rest : r.AtRest)
    (spare : r.held.length < workers) :
    r.ended.Perm (r.accepted.filter (Slip.canEnd r.released)) := by
  have hbusy := h.length_running_le rest
  refine h.ended_perm rest (Crew.waiting_eq_nil (atRest_iff.mp rest).1 ?_)
  rw [h.staff]
  omega

theorem Tracked.ended_perm_of_released (h : Tracked workers steps r) (rest : r.AtRest)
    (released : ∀ slip ∈ r.accepted, slip.canEnd r.released = true) :
    r.ended.Perm r.accepted := by
  have hheld : r.held = [] := List.filter_eq_nil_iff.mpr fun slip hslip => by
    simp [released slip hslip]
  by_cases none : r.accepted = []
  · have hperm := h.perm_accepted
    rw [none] at hperm
    have hended := (List.append_eq_nil_iff.mp hperm.nil_eq.symm).1
    rw [none, hended]
  · have hended := h.ended_perm_of_spare rest (by rw [hheld]; exact h.manned none)
    rwa [List.filter_eq_self.mpr released] at hended

theorem Tracked.nodup_sorted (h : Tracked workers steps r) : (r.accepted ++ r.refused).Nodup :=
  h.sorted.nodup_iff.mpr (Shift.nodup_slips steps)

/-- A task is among the accepted ones if it was accepted when it was given, and else among those
that were refused. -/
theorem mem_accepted_iff (workers : Nat) (earlier later : List Shift.Step) (task : Task) :
    let r := after workers (earlier ++ .execute task :: later)
    let slip : Slip := ⟨(Shift.slips earlier).length, task⟩
    (slip ∈ r.accepted ↔ 0 < workers ∧ .shutdown ∉ earlier) ∧
      (slip ∈ r.refused ↔ slip ∉ r.accepted) := by
  intro r slip
  have h := tracked_after workers earlier
  obtain ⟨haccepted, hrefused, -⟩ := grows_after workers (earlier ++ [.execute task]) later
  rw [List.append_assoc, List.singleton_append, after_concat, step, execute, h.given]
    at haccepted hrefused
  have hapart := List.nodup_append.mp
    (tracked_after workers (earlier ++ .execute task :: later)).nodup_sorted
  rw [← h.takes_iff]
  by_cases takes : (after workers earlier).crew.takes
  · rw [Crew.execute_of_takes takes] at haccepted
    have hmem : slip ∈ r.accepted := haccepted.subset (by simp [slip])
    have hnot : slip ∉ r.refused := fun hrefused => hapart.2.2 slip hmem slip hrefused rfl
    exact ⟨iff_of_true hmem takes, iff_of_false hnot (not_not_intro hmem)⟩
  · rw [Crew.execute_of_not_takes takes] at hrefused
    have hmem : slip ∈ r.refused := hrefused.subset (by simp [slip])
    have hnot : slip ∉ r.accepted := fun haccepted => hapart.2.2 slip haccepted slip hmem rfl
    exact ⟨iff_of_false hnot takes, iff_of_true hmem hnot⟩

/-- A crew takes a task if it has workers and was not closed before, and refuses it otherwise. Every
task that it took waits, runs or has ended, and was begun once, in the order in which the tasks were
given; one that was refused was not begun. The workers can always go on until they are at rest, each
step of theirs brings them nearer to it, and then the tasks that ended, each once, are all that were
accepted if their gates are open; and with a worker to spare beside the tasks that are held at
closed gates, they are all other tasks. Other tasks in the place of some, such as one that returns
in the place of one that panics, change nothing else. A single worker ends the tasks in the order in
which they were given. -/
theorem accepted_run_once (workers : Nat) (steps : List Shift.Step) :
    let r := after workers steps
    (∀ slip, (r.crew.execute slip).isOk = true ↔ 0 < workers ∧ .shutdown ∉ steps) ∧
    (∀ earlier later task, steps = earlier ++ .execute task :: later →
      let slip : Slip := ⟨(Shift.slips earlier).length, task⟩
      (slip ∈ r.accepted ↔ 0 < workers ∧ .shutdown ∉ earlier) ∧
        (slip ∈ r.refused ↔ slip ∉ r.accepted)) ∧
    (r.accepted ++ r.refused).Perm (Shift.slips steps) ∧
    r.accepted.Sublist (Shift.slips steps) ∧
    r.accepted.Nodup ∧
    r.begun <+: r.accepted ∧
    (r.ended ++ r.crew.running).Perm r.begun ∧
    (∀ slip ∈ r.refused, slip ∉ r.begun) ∧
    r.crew.workers = workers ∧
    (∀ s : Shift.Step, s.isWork = true → r.step s = r ∨ (r.step s).crew.load < r.crew.load) ∧
    (∃ work : List Shift.Step, (∀ s ∈ work, s.isWork = true) ∧
      (after workers (steps ++ work)).AtRest ∧
      (after workers (steps ++ work)).accepted = r.accepted ∧
      (after workers (steps ++ work)).released = r.released) ∧
    (r.AtRest → (∀ slip ∈ r.accepted, slip.canEnd r.released = true) →
      r.ended.Perm r.accepted) ∧
    (r.AtRest → r.held.length < workers →
      r.ended.Perm (r.accepted.filter (Slip.canEnd r.released))) ∧
    (∀ edit, Keeps edit → after workers (Shift.recast edit steps) = r.recast edit) ∧
    (workers ≤ 1 → r.ended ++ r.crew.running = r.begun) := by
  intro r
  have h := tracked_after workers steps
  refine ⟨h.isOk_execute, ?_, h.sorted, h.inOrder, (List.nodup_append.mp h.nodup_sorted).1,
    ⟨r.crew.waiting, h.begun.symm⟩, h.ended, ?_, h.staff, fun s => r.load_step_lt,
    exists_rest_after workers steps, h.ended_perm_of_released, h.ended_perm_of_spare,
    fun edit keeps => after_recast keeps workers steps, h.single⟩
  · rintro earlier later task rfl
    exact mem_accepted_iff workers earlier later task
  · intro slip hrefused hbegun
    have haccepted : slip ∈ r.accepted := by
      rw [h.begun]
      exact List.mem_append_left _ hbegun
    exact (List.nodup_append.mp h.nodup_sorted).2.2 slip haccepted slip hrefused rfl

/-- Of two workers, one is held at a gate. The other ends the task that panics and the next one, and
a task that is given after the shutdown is refused. When the gate is opened, every task that was
accepted ends, and so it goes with a task that returns in the place of the one that panics. -/
theorem accepted_run_once_of_held_worker :
    let steps : List Shift.Step := [.execute (.waitThenWrite "a"), .execute .panic,
      .execute (.write "b"), .start, .start, .finish 1, .start, .finish 1, .shutdown,
      .execute (.write "c")]
    let held := after 2 steps
    let done := after 2 (steps ++ [.release fun _ => true, .finish 0])
    let edit := fun (_ : Nat) (task : Task) => if task = .panic then .write "d" else task
    held.AtRest ∧ held.held.length < 2 ∧
      held.ended.Perm [⟨1, .panic⟩, ⟨2, .write "b"⟩] ∧
      ⟨3, .write "c"⟩ ∉ held.begun ∧
      done.AtRest ∧
      done.ended.Perm [⟨0, .waitThenWrite "a"⟩, ⟨1, .panic⟩, ⟨2, .write "b"⟩] ∧
      (after 2 (Shift.recast edit steps)).ended = [⟨1, .write "d"⟩, ⟨2, .write "b"⟩] ∧
      (after 1 steps).ended ++ (after 1 steps).crew.running = (after 1 steps).begun := by
  intro steps held done edit
  have hheldRest : held.AtRest := atRest_iff.mpr (by decide +kernel)
  have hspare : held.held.length < 2 := by decide +kernel
  have hdoneRest : done.AtRest := atRest_iff.mpr (by decide +kernel)
  have hreleased : ∀ slip ∈ done.accepted, slip.canEnd done.released = true := by decide +kernel
  have hkeeps : Keeps edit := by
    intro number gateOpen task
    cases task <;> rfl
  obtain ⟨-, -, -, -, -, -, -, hrefused, -, -, -, -, hothers, hrecast, -⟩ :=
    accepted_run_once 2 steps
  obtain ⟨-, -, -, -, -, -, -, -, -, -, -, hall, -, -, -⟩ :=
    accepted_run_once 2 (steps ++ [.release fun _ => true, .finish 0])
  obtain ⟨-, -, -, -, -, -, -, -, -, -, -, -, -, -, hsingle⟩ := accepted_run_once 1 steps
  refine ⟨hheldRest, hspare, hothers hheldRest hspare, hrefused _ (by decide +kernel), hdoneRest,
    hall hdoneRest hreleased, ?_, hsingle (Nat.le_refl 1)⟩
  rw [hrecast edit hkeeps]
  decide +kernel

end ShiftRun

end CallWatch
