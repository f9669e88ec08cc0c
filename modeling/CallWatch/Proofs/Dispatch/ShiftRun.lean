import CallWatch.Dispatch.Shift
import CallWatch.Proofs.Dispatch.Crew
import CallWatch.Proofs.Dispatch.Numbering
import Mathlib.Data.List.Induction

/-! Runs of a shift, step by step. Callers give tasks, release tasks that wait at their gates, and
close the crew, and between any two calls the workers may begin and end tasks or not. Once the crew
is closed and no task waits, a free worker may end and give notice of it. The tasks of a run are
numbered as they are given, each has its own gate, and the run keeps which of them were accepted,
begun and ended. Every step is a move that shifts a single task or worker (`Move`), or nothing. What
a shift does is a run in which the workers go on after each call until they are at rest. -/

namespace CallWatch

/-- A task with the number under which it was given. -/
structure Slip where
  number : Nat
  task : Task
  deriving DecidableEq

/-- Whether a task can end, where the gates with some numbers are open. -/
def Slip.canEnd (released : Nat → Bool) (slip : Slip) : Bool :=
  slip.task.canEnd (released slip.number)

def Slip.ending (slip : Slip) : Ending :=
  slip.task.ending

namespace Shift

/-- What can happen to a shift: a task is given, the gates of some tasks are opened, the crew is
closed, a free worker begins the oldest task that waits, the task at a place ends, or a worker that
has nothing left to do ends. -/
inductive Step
  | execute (task : Task)
  | release (which : Nat → Bool)
  | shutdown
  | start
  | finish (place : Nat)
  | leave

def Step.task? : Step → Option Task
  | execute task => some task
  | _ => none

/-- Whether a step is one of the callers. -/
def Step.isCall : Step → Bool
  | execute _ | release _ | shutdown => true
  | start | finish _ | leave => false

/-- Whether a step is one of the workers at their tasks: a task begins or ends. -/
def Step.isWork : Step → Bool
  | start | finish _ => true
  | _ => false

/-- The tasks that some steps give, with their numbers. -/
def slips (steps : List Step) : List Slip :=
  numbered Step.task? Slip.mk steps

theorem slips_concat (steps : List Step) (s : Step) :
    slips (steps ++ [s]) = slips steps ++ s.task?.toList.map (Slip.mk (slips steps).length) :=
  numbered_concat _ _ steps s

theorem slips_concat_of_task?_eq_none (steps : List Step) {s : Step} (hs : s.task? = none) :
    slips (steps ++ [s]) = slips steps := by
  rw [slips_concat, hs]
  exact List.append_nil _

theorem nodup_slips (steps : List Step) : (slips steps).Nodup :=
  nodup_numbered _ _ Slip.number (fun _ _ => rfl) steps

end Shift

/-- A crew, the gates that are open, and what came of the tasks that were given. -/
structure ShiftRun where
  crew : Crew Slip
  released : Nat → Bool
  given : Nat
  accepted : List Slip
  refused : List Slip
  /-- The tasks that a worker began, in that order. -/
  begun : List Slip
  /-- The tasks that returned or panicked, in that order. -/
  ended : List Slip
  /-- The workers that have ended. -/
  exited : Nat

namespace ShiftRun

def ofWorkers (workers : Nat) : ShiftRun :=
  ⟨.ofWorkers workers, fun _ => false, 0, [], [], [], [], 0⟩

def execute (r : ShiftRun) (task : Task) : ShiftRun :=
  let slip : Slip := ⟨r.given, task⟩
  match r.crew.execute slip with
  | .ok crew => { r with crew, given := r.given + 1, accepted := r.accepted ++ [slip] }
  | .error _ => { r with given := r.given + 1, refused := r.refused ++ [slip] }

def start (r : ShiftRun) : ShiftRun :=
  match r.crew.start? with
  | some crew => { r with crew, begun := r.begun ++ r.crew.waiting.take 1 }
  | none => r

/-- The task at a place ends, if its gate does not keep it. -/
def finish (r : ShiftRun) (place : Nat) : ShiftRun :=
  match r.crew.running[place]? with
  | some slip =>
    if slip.canEnd r.released then
      { r with crew := r.crew.finish place slip.ending, ended := r.ended ++ [slip] }
    else r
  | none => r

/-- A worker that is free once the crew is closed and no task waits ends. -/
def leave (r : ShiftRun) : ShiftRun :=
  if r.crew.isLeaving ∧ r.crew.running.length + r.exited < r.crew.workers then
    { r with exited := r.exited + 1 }
  else r

def step (r : ShiftRun) : Shift.Step → ShiftRun
  | .execute task => r.execute task
  | .release which => { r with released := fun number => r.released number || which number }
  | .shutdown => { r with crew := r.crew.close }
  | .start => r.start
  | .finish place => r.finish place
  | .leave => r.leave

/-- A run of a shift with some workers. -/
def after (workers : Nat) (steps : List Shift.Step) : ShiftRun :=
  steps.foldl step (ofWorkers workers)

theorem after_concat (workers : Nat) (steps : List Shift.Step) (s : Shift.Step) :
    after workers (steps ++ [s]) = (after workers steps).step s := by
  simp [after]

theorem after_append (workers : Nat) (steps later : List Shift.Step) :
    after workers (steps ++ later) = later.foldl step (after workers steps) :=
  List.foldl_append

/-- All that a step can do to a run. -/
inductive Move (r : ShiftRun) : Shift.Step → ShiftRun → Prop
  | accept (task : Task) (takes : r.crew.takes) :
      Move r (.execute task)
        { r with
          crew := { r.crew with waiting := r.crew.waiting ++ [⟨r.given, task⟩] }
          given := r.given + 1, accepted := r.accepted ++ [⟨r.given, task⟩] }
  | refuse (task : Task) (full : ¬r.crew.takes) :
      Move r (.execute task)
        { r with given := r.given + 1, refused := r.refused ++ [⟨r.given, task⟩] }
  | release (which : Nat → Bool) :
      Move r (.release which)
        { r with released := fun number => r.released number || which number }
  | shutdown : Move r .shutdown { r with crew := r.crew.close }
  | start (slip : Slip) (waiting : List Slip) (oldest : r.crew.waiting = slip :: waiting)
      (free : r.crew.running.length < r.crew.workers) :
      Move r .start
        { r with
          crew := { r.crew with waiting := waiting, running := r.crew.running ++ [slip] }
          begun := r.begun ++ [slip] }
  | finish (place : Nat) (slip : Slip) (running : r.crew.running[place]? = some slip)
      (able : slip.canEnd r.released = true) :
      Move r (.finish place)
        { r with crew := r.crew.freed place, ended := r.ended ++ [slip] }
  | leave (leaving : r.crew.isLeaving = true)
      (free : r.crew.running.length + r.exited < r.crew.workers) :
      Move r .leave { r with exited := r.exited + 1 }
  | idle (s : Shift.Step) (own : s.isCall = false) : Move r s r

theorem move_step (r : ShiftRun) (s : Shift.Step) : Move r s (r.step s) := by
  cases s with
  | execute task =>
    by_cases takes : r.crew.takes
    · rw [step, execute, Crew.execute_of_takes takes]
      exact .accept task takes
    · rw [step, execute, Crew.execute_of_not_takes takes]
      exact .refuse task takes
  | release which => exact .release which
  | shutdown => exact .shutdown
  | start =>
    rw [step, start]
    split
    · next crew hstart =>
      obtain ⟨slip, waiting, oldest, free, rfl⟩ := Crew.start?_eq_some hstart
      rw [oldest]
      exact .start slip waiting oldest free
    · exact .idle .start rfl
  | finish place =>
    rw [step, finish]
    split
    · next slip running =>
      split
      · next able =>
        rw [Crew.finish_eq]
        exact .finish place slip running able
      · exact .idle (.finish place) rfl
    · exact .idle (.finish place) rfl
  | leave =>
    rw [step, leave]
    split
    · next h => exact .leave h.1 h.2
    · exact .idle .leave rfl

/-- Where the tasks of a run are. -/
structure Tracked (workers : Nat) (steps : List Shift.Step) (r : ShiftRun) : Prop where
  staff : r.crew.workers = workers
  isOpen : r.crew.isOpen = true ↔ .shutdown ∉ steps
  given : r.given = (Shift.slips steps).length
  sorted : (r.accepted ++ r.refused).Perm (Shift.slips steps)
  inOrder : r.accepted.Sublist (Shift.slips steps)
  manned : r.accepted ≠ [] → 0 < workers
  begun : r.accepted = r.begun ++ r.crew.waiting
  ended : (r.ended ++ r.crew.running).Perm r.begun
  single : workers ≤ 1 → r.ended ++ r.crew.running = r.begun
  room : r.crew.running.length + r.exited ≤ workers
  leaving : r.exited ≠ 0 → r.crew.isLeaving = true
  able : ∀ slip ∈ r.ended, slip.canEnd r.released = true

variable {workers : Nat} {steps : List Shift.Step} {r r' : ShiftRun}

theorem Slip.canEnd_mono {released released' : Nat → Bool}
    (h : ∀ number, released number = true → released' number = true) {slip : Slip}
    (able : slip.canEnd released = true) : slip.canEnd released' = true := by
  cases htask : slip.task with
  | waitThenWrite name =>
    simp only [Slip.canEnd, htask, Task.canEnd] at able ⊢
    exact h _ able
  | _ => simp [Slip.canEnd, htask, Task.canEnd]

/-- A step that gives no task does no more than close the crew, or leave it open. -/
theorem Tracked.concat (h : Tracked workers steps r) {s : Shift.Step} (quiet : s.task? = none)
    {isOpen : Bool} (hopen : isOpen = true ↔ .shutdown ∉ steps ++ [s]) :
    Tracked workers (steps ++ [s]) { r with crew := { r.crew with isOpen } } := by
  have hslips := Shift.slips_concat_of_task?_eq_none steps quiet
  refine { h with isOpen := hopen, given := ?_, sorted := ?_, inOrder := ?_, leaving := ?_ }
  · rw [hslips, h.given]
  · rw [hslips]
    exact h.sorted
  · rw [hslips]
    exact h.inOrder
  · intro exited
    obtain ⟨hclosed, hwaiting⟩ := Crew.isLeaving_iff.mp (h.leaving exited)
    have hshut : .shutdown ∈ steps := by
      by_contra hnever
      exact absurd (hclosed.symm.trans (h.isOpen.mpr hnever)) (by decide)
    refine Crew.isLeaving_iff.mpr ⟨?_, hwaiting⟩
    exact Bool.eq_false_iff.mpr fun isOpen => hopen.mp isOpen (List.mem_append_left _ hshut)

theorem Tracked.slips_execute (h : Tracked workers steps r) (task : Task) :
    Shift.slips (steps ++ [.execute task]) = Shift.slips steps ++ [⟨r.given, task⟩] := by
  rw [Shift.slips_concat, h.given]
  rfl

theorem Tracked.accept (h : Tracked workers steps r) (task : Task) (takes : r.crew.takes) :
    Tracked workers (steps ++ [.execute task])
      { r with
        crew := { r.crew with waiting := r.crew.waiting ++ [⟨r.given, task⟩] }
        given := r.given + 1, accepted := r.accepted ++ [⟨r.given, task⟩] } := by
  have hslips := h.slips_execute task
  refine { h with
    isOpen := ?_, given := ?_, sorted := ?_, inOrder := ?_, manned := ?_, begun := ?_
    leaving := ?_ }
  · rw [h.isOpen]
    simp
  · rw [hslips, List.length_append, ← h.given]
    rfl
  · rw [hslips]
    refine List.Perm.trans ?_ (h.sorted.append_right _)
    simp only [List.append_assoc]
    exact List.perm_append_comm.append_left _
  · rw [hslips]
    exact h.inOrder.append (List.Sublist.refl _)
  · exact fun _ => h.staff ▸ takes.2
  · rw [h.begun, List.append_assoc]
  · intro exited
    have hclosed := (Crew.isLeaving_iff.mp (h.leaving exited)).1
    exact absurd (hclosed.symm.trans takes.1) (by decide)

theorem Tracked.refuse (h : Tracked workers steps r) (task : Task) :
    Tracked workers (steps ++ [.execute task])
      { r with given := r.given + 1, refused := r.refused ++ [⟨r.given, task⟩] } := by
  have hslips := h.slips_execute task
  refine { h with isOpen := ?_, given := ?_, sorted := ?_, inOrder := ?_ }
  · rw [h.isOpen]
    simp
  · rw [hslips, List.length_append, ← h.given]
    rfl
  · rw [hslips, ← List.append_assoc]
    exact h.sorted.append_right _
  · rw [hslips]
    exact h.inOrder.trans (List.sublist_append_left ..)

theorem Tracked.start (h : Tracked workers steps r) {slip : Slip} {waiting : List Slip}
    (oldest : r.crew.waiting = slip :: waiting) (free : r.crew.running.length < r.crew.workers) :
    Tracked workers steps
      { r with
        crew := { r.crew with waiting := waiting, running := r.crew.running ++ [slip] }
        begun := r.begun ++ [slip] } := by
  have hstays : r.exited = 0 := by
    by_contra exited
    have hwaiting := (Crew.isLeaving_iff.mp (h.leaving exited)).2
    exact absurd (oldest.symm.trans hwaiting) (List.cons_ne_nil _ _)
  refine { h with
    begun := ?_, ended := ?_, single := ?_, room := ?_
    leaving := fun exited => absurd hstays exited }
  · rw [h.begun, oldest, List.append_assoc]
    rfl
  · rw [← List.append_assoc]
    exact h.ended.append_right _
  · intro single
    rw [← List.append_assoc, h.single single]
  · rw [hstays, ← h.staff, List.length_append]
    exact free

theorem Tracked.finish (h : Tracked workers steps r) {place : Nat} {slip : Slip}
    (running : r.crew.running[place]? = some slip) (able : slip.canEnd r.released = true) :
    Tracked workers steps { r with crew := r.crew.freed place, ended := r.ended ++ [slip] } := by
  refine { h with ended := ?_, single := ?_, room := ?_, able := ?_ }
  · obtain ⟨hplace, rfl⟩ := List.getElem?_eq_some_iff.mp running
    rw [List.append_assoc]
    exact ((List.getElem_cons_eraseIdx_perm hplace).append_left _).trans h.ended
  · intro single
    have hroom := h.room
    obtain ⟨hplace, rfl⟩ := List.getElem?_eq_some_iff.mp running
    obtain ⟨other, hother⟩ := List.length_eq_one_iff.mp (show r.crew.running.length = 1 by omega)
    obtain rfl : place = 0 := by omega
    rw [← h.single single]
    simp [Crew.freed, hother]
  · exact (Nat.add_le_add_right (List.length_eraseIdx_le ..) _).trans h.room
  · intro other hmem
    rcases List.mem_append.mp hmem with hmem | hmem
    · exact h.able other hmem
    · obtain rfl := List.mem_singleton.mp hmem
      exact able

theorem Move.tracked {s : Shift.Step} (move : Move r s r') (h : Tracked workers steps r) :
    Tracked workers (steps ++ [s]) r' := by
  cases move with
  | accept task takes => exact h.accept task takes
  | refuse task full => exact h.refuse task
  | release which =>
    refine { h.concat rfl (h.isOpen.trans (by simp)) with able := fun slip hslip => ?_ }
    exact Slip.canEnd_mono (fun number hnumber => by simp [hnumber]) (h.able slip hslip)
  | shutdown => exact h.concat rfl (by simp)
  | start slip waiting oldest free =>
    exact (h.start oldest free).concat rfl (h.isOpen.trans (by simp))
  | finish place slip running able =>
    exact (h.finish running able).concat rfl (h.isOpen.trans (by simp))
  | leave leaving free =>
    refine { h.concat rfl (h.isOpen.trans (by simp)) with room := ?_, leaving := fun _ => leaving }
    rw [← h.staff]
    exact free
  | idle s own =>
    cases s with
    | start | finish | leave => exact h.concat rfl (h.isOpen.trans (by simp))
    | _ => simp [Shift.Step.isCall] at own

theorem tracked_after (workers : Nat) (steps : List Shift.Step) :
    Tracked workers steps (after workers steps) := by
  induction steps using List.reverseRecOn with
  | nil =>
    exact ⟨rfl, by simp [after, ofWorkers, Crew.ofWorkers], rfl, .refl _, .refl _,
      fun h => absurd rfl h, rfl, .refl _, fun _ => rfl, Nat.zero_le _, fun h => absurd rfl h,
      by simp [after, ofWorkers]⟩
  | append_singleton steps s ih =>
    rw [after_concat]
    exact (move_step _ s).tracked ih

/-- What came of the tasks of a run is kept in another, which may have more. -/
structure Grows (r r' : ShiftRun) : Prop where
  accepted : r.accepted <+: r'.accepted
  refused : r.refused <+: r'.refused
  ended : r.ended <+: r'.ended

theorem Grows.refl (r : ShiftRun) : Grows r r :=
  ⟨List.prefix_rfl, List.prefix_rfl, List.prefix_rfl⟩

theorem Grows.trans {r r' r'' : ShiftRun} (h : Grows r r') (h' : Grows r' r'') : Grows r r'' :=
  ⟨h.accepted.trans h'.accepted, h.refused.trans h'.refused, h.ended.trans h'.ended⟩

theorem Move.grows {s : Shift.Step} (move : Move r s r') : Grows r r' := by
  cases move with
  | accept task takes => exact ⟨List.prefix_append .., List.prefix_rfl, List.prefix_rfl⟩
  | refuse task full => exact ⟨List.prefix_rfl, List.prefix_append .., List.prefix_rfl⟩
  | finish place slip running able =>
    exact ⟨List.prefix_rfl, List.prefix_rfl, List.prefix_append ..⟩
  | _ => exact ⟨List.prefix_rfl, List.prefix_rfl, List.prefix_rfl⟩

/-- What every move keeps holds from then on. -/
theorem kept_after {P : ShiftRun → Prop} (keep : ∀ {r r' s}, Move r s r' → P r → P r')
    {workers : Nat} {steps : List Shift.Step} (now : P (after workers steps))
    (later : List Shift.Step) : P (after workers (steps ++ later)) := by
  induction later using List.reverseRecOn with
  | nil => rwa [List.append_nil]
  | append_singleton later s ih =>
    rw [← List.append_assoc, after_concat]
    exact keep (move_step _ s) ih

theorem grows_after (workers : Nat) (steps later : List Shift.Step) :
    Grows (after workers steps) (after workers (steps ++ later)) :=
  kept_after (fun move h => h.trans move.grows) (.refl _) later

/-- Workers that go on for as long as they can take the steps of a run. -/
theorem exists_work (r : ShiftRun) :
    ∃ work : List Shift.Step, (∀ s ∈ work, s.isWork = true) ∧ ∃ begun, work.foldl step r =
      { r with
        crew := (r.crew.work (Slip.canEnd r.released) Slip.ending).2
        begun := begun
        ended := r.ended ++ (r.crew.work (Slip.canEnd r.released) Slip.ending).1 } := by
  generalize hreleased : r.released = released
  -- On the recursion by which the workers go on: a task ends, or begins, or neither can happen.
  induction hcrew : r.crew using Crew.work.induct (Slip.canEnd released) Slip.ending
    generalizing r with
  | case1 crew hplace task ended final hwork ih =>
    subst hcrew
    rw [Crew.finish_eq] at ih
    clear hwork task
    generalize hfirst : r.crew.running.findIdx (Slip.canEnd released) = place at *
    have running := List.getElem?_eq_getElem hplace
    have able : r.crew.running[place].canEnd r.released = true := by
      subst hfirst hreleased
      exact List.findIdx_getElem
    have hstep : r.step (.finish place) =
        { r with crew := r.crew.freed place, ended := r.ended ++ [r.crew.running[place]] } := by
      simp only [step, finish, running, able, if_true, Crew.finish_eq]
    obtain ⟨work, hall, begun, hafter⟩ :=
      ih (r.step (.finish place)) (by rw [hstep]; exact hreleased)
        (by rw [hstep])
    refine ⟨.finish place :: work, by simpa [Shift.Step.isWork] using hall, begun, ?_⟩
    rw [List.foldl_cons, hafter, hstep, Crew.work_freed hfirst running]
    simp
  | case2 crew hplace next hstart ih =>
    subst hcrew
    have hstep : r.step .start =
        { r with crew := next, begun := r.begun ++ r.crew.waiting.take 1 } := by
      rw [step, start, hstart]
    obtain ⟨work, hall, begun, hafter⟩ :=
      ih (r.step .start) (by rw [hstep]; exact hreleased) (by rw [hstep])
    refine ⟨.start :: work, by simpa [Shift.Step.isWork] using hall, begun, ?_⟩
    rw [List.foldl_cons, hafter, hstep, Crew.work_start hplace hstart]
  | case3 crew hplace hstart =>
    subst hcrew
    refine ⟨[], by simp, r.begun, ?_⟩
    rw [Crew.work_rest hplace hstart, ← hreleased]
    simp

/-- What a shift has where all gates are open or all are closed. -/
def shift (r : ShiftRun) (gateOpen : Bool) : Shift :=
  ⟨r.crew.map Slip.task, gateOpen, r.ended.filterMap fun slip => slip.task.line?⟩

theorem exists_work_of_shift {gateOpen : Bool} (gate : r.released = fun _ => gateOpen) :
    ∃ work : List Shift.Step, (∀ s ∈ work, s.isWork = true) ∧
      (work.foldl step r).released = r.released ∧
      (work.foldl step r).shift gateOpen = (r.shift gateOpen).work := by
  obtain ⟨work, hall, begun, hafter⟩ := r.exists_work
  have hready : Task.canEnd gateOpen ∘ Slip.task = Slip.canEnd r.released := by
    funext slip
    simp [Slip.canEnd, gate]
  refine ⟨work, hall, by rw [hafter], ?_⟩
  rw [hafter, Shift.work]
  simp only [shift, Crew.work_map, hready, List.filterMap_append, List.filterMap_map]
  rfl

end ShiftRun

/-- What callers do with a shift: they give a task, open the gate, or close the crew. -/
inductive Shift.Call
  | execute (task : Task)
  | release
  | shutdown

def Shift.Call.step : Call → Step
  | execute task => .execute task
  | release => .release fun _ => true
  | shutdown => .shutdown

def Shift.obey (s : Shift) : Call → Shift
  | .execute task => (s.execute task).2
  | .release => s.release
  | .shutdown => s.shutdown.2

namespace ShiftRun

variable {workers : Nat} {r : ShiftRun}

/-- A call of a shift is the call of a run and what the workers can do after it. -/
theorem exists_work_of_obey {gateOpen : Bool} (gate : r.released = fun _ => gateOpen)
    (call : Shift.Call) : ∃ work : List Shift.Step, (∀ s ∈ work, s.isWork = true) ∧
      ∃ gateOpen', (work.foldl step (r.step call.step)).released = (fun _ => gateOpen') ∧
        (work.foldl step (r.step call.step)).shift gateOpen' =
          (r.shift gateOpen).obey call := by
  -- Only after a task that was refused, the workers of a shift do nothing.
  have hwork (gateOpen' : Bool) (gate' : (r.step call.step).released = fun _ => gateOpen')
      (hcall : ((r.step call.step).shift gateOpen').work = (r.shift gateOpen).obey call) :
      ∃ work : List Shift.Step, (∀ s ∈ work, s.isWork = true) ∧
        ∃ gateOpen', (work.foldl step (r.step call.step)).released = (fun _ => gateOpen') ∧
          (work.foldl step (r.step call.step)).shift gateOpen' =
            (r.shift gateOpen).obey call := by
    obtain ⟨work, hall, hreleased, hshift⟩ := exists_work_of_shift gate'
    exact ⟨work, hall, gateOpen', hreleased.trans gate', hshift.trans hcall⟩
  cases call with
  | execute task =>
    have hmap := r.crew.execute_map Slip.task ⟨r.given, task⟩
    by_cases takes : r.crew.takes
    · rw [Crew.execute_of_takes takes] at hmap
      have hstep : r.step (.execute task) =
          { r with
            crew := { r.crew with waiting := r.crew.waiting ++ [⟨r.given, task⟩] }
            given := r.given + 1, accepted := r.accepted ++ [⟨r.given, task⟩] } := by
        rw [step, execute, Crew.execute_of_takes takes]
      refine hwork gateOpen (by rw [Shift.Call.step, hstep, gate]) ?_
      rw [Shift.Call.step, hstep, Shift.obey, Shift.execute]
      simp only [shift, hmap, Except.map]
    · rw [Crew.execute_of_not_takes takes] at hmap
      have hstep : r.step (.execute task) =
          { r with given := r.given + 1, refused := r.refused ++ [⟨r.given, task⟩] } := by
        rw [step, execute, Crew.execute_of_not_takes takes]
      refine ⟨[], by simp, gateOpen, ?_⟩
      rw [Shift.Call.step, hstep, Shift.obey, Shift.execute]
      simp only [shift, hmap, Except.map, List.foldl_nil]
      exact ⟨gate, trivial⟩
  | release =>
    refine hwork true ?_ rfl
    simp [Shift.Call.step, step]
  | shutdown => exact hwork gateOpen gate rfl

/-- What a shift does with some calls is a run with these calls. -/
theorem exists_run_of_calls (workers : Nat) (calls : List Shift.Call) :
    ∃ steps : List Shift.Step, steps.filter (fun s => !s.isWork) = calls.map Shift.Call.step ∧
      ∃ gateOpen, (after workers steps).released = (fun _ => gateOpen) ∧
        (after workers steps).shift gateOpen = calls.foldl Shift.obey (.ofWorkers workers) := by
  induction calls using List.reverseRecOn with
  | nil => exact ⟨[], rfl, false, rfl, rfl⟩
  | append_singleton calls call ih =>
    obtain ⟨steps, hcalls, gateOpen, gate, hshift⟩ := ih
    obtain ⟨work, hall, gateOpen', gate', hshift'⟩ := exists_work_of_obey gate call
    refine ⟨steps ++ call.step :: work, ?_, gateOpen', ?_⟩
    · have hcall : call.step.isWork = false := by cases call <;> rfl
      have hnone : work.filter (fun s => !s.isWork) = [] := by
        simpa [List.filter_eq_nil_iff] using hall
      simp [hcalls, hcall, hnone]
    · rw [after_append, List.foldl_cons, List.foldl_append, ← hshift]
      exact ⟨gate', hshift'⟩

end ShiftRun

end CallWatch
