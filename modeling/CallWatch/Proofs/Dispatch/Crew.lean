import CallWatch.Dispatch.Crew
import Mathlib.Data.List.InsertIdx
import Mathlib.Data.List.Perm.Basic

/-! Crews in general: what a crew does does not depend on what its tasks are, a task that runs or
waits is lost only when it ends, and workers that go on end every task. -/

namespace CallWatch

namespace Crew

variable {τ σ : Type} (f : τ → σ)

def map (c : Crew τ) : Crew σ :=
  ⟨c.workers, c.isOpen, c.waiting.map f, c.running.map f⟩

theorem map_close (c : Crew τ) : (c.map f).close = c.close.map f := rfl

theorem freed_map (c : Crew τ) (place : Nat) : (c.map f).freed place = (c.freed place).map f := by
  simp only [freed, map, List.eraseIdx_map]

theorem start?_map (c : Crew τ) : (c.map f).start? = c.start?.map (map f) := by
  unfold start?
  cases waiting : c.waiting with
  | nil => simp [map, waiting]
  | cons task tasks => by_cases free : c.running.length < c.workers <;> simp [map, waiting, free]

def takes (c : Crew τ) : Prop :=
  c.isOpen ∧ 0 < c.workers

theorem execute_of_takes {c : Crew τ} (h : c.takes) (task : τ) :
    c.execute task = .ok { c with waiting := c.waiting ++ [task] } :=
  if_pos h

theorem execute_of_not_takes {c : Crew τ} (h : ¬c.takes) (task : τ) :
    c.execute task = .error .closed :=
  if_neg h

theorem execute_map (c : Crew τ) (task : τ) :
    (c.map f).execute (f task) = (c.execute task).map (map f) := by
  by_cases takes : c.takes
  · have htakes : (c.map f).takes := takes
    rw [execute_of_takes takes, execute_of_takes htakes]
    simp [map, Except.map]
  · have htakes : ¬(c.map f).takes := takes
    rw [execute_of_not_takes takes, execute_of_not_takes htakes]
    rfl

theorem start?_eq_some {c d : Crew τ} (h : c.start? = some d) :
    ∃ task waiting, c.waiting = task :: waiting ∧ c.running.length < c.workers ∧
      d = { c with waiting := waiting, running := c.running ++ [task] } := by
  unfold start? at h
  split at h
  · simp at h
  · next task waiting oldest =>
    split at h
    · next free => exact ⟨task, waiting, oldest, free, (Option.some.inj h).symm⟩
    · simp at h

theorem isLeaving_iff {c : Crew τ} : c.isLeaving = true ↔ c.isOpen = false ∧ c.waiting = [] := by
  simp [isLeaving]

/-- The tasks of a crew, those that run before those that wait. -/
def tasks (c : Crew τ) : List τ :=
  c.running ++ c.waiting

theorem tasks_map (c : Crew τ) : (c.map f).tasks = c.tasks.map f :=
  List.map_append.symm

theorem isIdle_iff {c : Crew τ} : c.isIdle = true ↔ c.tasks = [] := by
  simp [isIdle, tasks, and_comm]

theorem tasks_freed {c : Crew τ} {place : Nat} {task : τ}
    (running : c.running[place]? = some task) : (task :: (c.freed place).tasks).Perm c.tasks := by
  obtain ⟨hplace, rfl⟩ := List.getElem?_eq_some_iff.mp running
  exact (List.getElem_cons_eraseIdx_perm hplace).append_right c.waiting

theorem tasks_freed_of_single {c : Crew τ} {place : Nat} {task : τ}
    (single : c.running.length ≤ 1) (running : c.running[place]? = some task) :
    task :: (c.freed place).tasks = c.tasks := by
  obtain ⟨hplace, rfl⟩ := List.getElem?_eq_some_iff.mp running
  obtain ⟨task, htask⟩ := List.length_eq_one_iff.mp (show c.running.length = 1 by omega)
  obtain rfl : place = 0 := by omega
  simp [tasks, freed, htask]

section Work

variable {ready : τ → Bool} {ending : τ → Ending}

theorem work_freed {c : Crew τ} {place : Nat} {task : τ} (first : c.running.findIdx ready = place)
    (running : c.running[place]? = some task) :
    c.work ready ending =
      (task :: ((c.freed place).work ready ending).1, ((c.freed place).work ready ending).2) := by
  subst first
  obtain ⟨able, rfl⟩ := List.getElem?_eq_some_iff.mp running
  rw [work, dif_pos able]
  simp only [finish_eq]

theorem work_start {c d : Crew τ} (stuck : ¬c.running.findIdx ready < c.running.length)
    (start : c.start? = some d) : c.work ready ending = d.work ready ending := by
  rw [work, dif_neg stuck, start]

theorem work_rest {c : Crew τ} (stuck : ¬c.running.findIdx ready < c.running.length)
    (start : c.start? = none) : c.work ready ending = ([], c) := by
  rw [work, dif_neg stuck, start]

end Work

/-- Workers go by what decides whether a task is ready and how it ends, whatever else the task is.
-/
theorem work_map (ready : σ → Bool) (ending : σ → Ending) (c : Crew τ) :
    (c.map f).work ready ending =
      ((c.work (ready ∘ f) (ending ∘ f)).1.map f, (c.work (ready ∘ f) (ending ∘ f)).2.map f) := by
  have hfirst (c : Crew τ) :
      (c.map f).running.findIdx ready = c.running.findIdx (ready ∘ f) := List.findIdx_map ..
  have hlength (c : Crew τ) : (c.map f).running.length = c.running.length := List.length_map ..
  induction c using work.induct (ready ∘ f) (ending ∘ f) with
  | case1 c hplace task ended final hwork ih =>
    have running := List.getElem?_eq_getElem hplace
    have hrunning := congrArg (Option.map f) running
    rw [← List.getElem?_map] at hrunning
    rw [finish_eq] at ih
    rw [work_freed rfl running, work_freed (hfirst c) hrunning, freed_map, ih]
    rfl
  | case2 c hplace next hstart ih =>
    have hstuck : ¬(c.map f).running.findIdx ready < (c.map f).running.length := by
      rwa [hfirst, hlength]
    rw [work_start hplace hstart, work_start hstuck (by rw [start?_map, hstart]; rfl), ih]
  | case3 c hplace hstart =>
    have hstuck : ¬(c.map f).running.findIdx ready < (c.map f).running.length := by
      rwa [hfirst, hlength]
    rw [work_rest hplace hstart, work_rest hstuck (by rw [start?_map, hstart]; rfl)]
    rfl

/-- Workers that go on come to rest: none can begin a task, and none that is ready is left. -/
theorem atRest_work (ready : τ → Bool) (ending : τ → Ending) (c : Crew τ) :
    (c.work ready ending).2.start? = none ∧
      ∀ task ∈ (c.work ready ending).2.running, ready task = false := by
  induction c using work.induct ready ending with
  | case1 c hplace task ended final hwork ih =>
    rw [finish_eq] at ih
    rw [work_freed rfl (List.getElem?_eq_getElem hplace)]
    exact ih
  | case2 c hplace next hstart ih =>
    rw [work_start hplace hstart]
    exact ih
  | case3 c hplace hstart =>
    rw [work_rest hplace hstart]
    refine ⟨hstart, ?_⟩
    simpa [List.findIdx_lt_length] using hplace

/-- A crew at rest with a worker to spare has nothing that waits. -/
theorem waiting_eq_nil {c : Crew τ} (rest : c.start? = none) (free : c.running.length < c.workers) :
    c.waiting = [] := by
  cases waiting : c.waiting with
  | nil => rfl
  | cons task tasks => simp [start?, waiting, free] at rest

end Crew

end CallWatch
