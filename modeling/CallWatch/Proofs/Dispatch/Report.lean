import CallWatch.Proofs.Dispatch.Turns

/-! What a shutdown says of the workers. The first one says that they have ended just if each of
them has given notice of it in time. Then every task that was accepted has ended, and nothing begins
or ends any more. A crew that was closed before is not waited for: then the report is that they have
ended, even while a task still runs. -/

namespace CallWatch

namespace ShiftRun

variable {workers : Nat} {steps : List Shift.Step} {r r' : ShiftRun}

/-- A crew has nothing left to do just if each task that it accepted has ended. -/
theorem Tracked.isIdle_iff (h : Tracked workers steps r) :
    r.crew.isIdle = true ↔ ∀ slip ∈ r.accepted, slip ∈ r.ended := by
  have haccepted := h.perm_accepted
  rw [Crew.isIdle_iff]
  constructor
  · intro none slip hslip
    rw [none, List.append_nil] at haccepted
    exact haccepted.mem_iff.mp hslip
  · intro all
    have hnodup := haccepted.nodup_iff.mp (List.nodup_append.mp h.nodup_sorted).1
    refine List.eq_nil_iff_forall_not_mem.mpr fun slip hslip => ?_
    have hended := all slip (haccepted.mem_iff.mpr (List.mem_append_right _ hslip))
    exact (List.nodup_append.mp hnodup).2.2 slip hended slip hslip rfl

theorem Move.accepted_eq_of_closed {s : Shift.Step} (move : Move r s r')
    (closed : r.crew.isOpen = false) : r'.crew.isOpen = false ∧ r'.accepted = r.accepted := by
  cases move with
  | accept task takes => exact absurd (takes.1.symm.trans closed) (by decide)
  | shutdown => exact ⟨rfl, rfl⟩
  | _ => exact ⟨closed, rfl⟩

theorem Tracked.isOpen_eq_false (h : Tracked workers steps r) (shut : .shutdown ∈ steps) :
    r.crew.isOpen = false :=
  Bool.eq_false_iff.mpr fun hopen => h.isOpen.mp hopen shut

theorem accepted_after_shutdown (workers : Nat) (steps : List Shift.Step)
    (shut : .shutdown ∈ steps) (later : List Shift.Step) :
    (after workers (steps ++ later)).accepted = (after workers steps).accepted := by
  have hclosed := (tracked_after workers steps).isOpen_eq_false shut
  have hkept := kept_after
    (P := fun r => r.crew.isOpen = false ∧ r.accepted = (after workers steps).accepted)
    (fun move h =>
      have hsame := move.accepted_eq_of_closed h.1
      ⟨hsame.1, hsame.2.trans h.2⟩)
    ⟨hclosed, rfl⟩ later
  exact hkept.2

/-- Once the crew is closed and has nothing left to do, no task ends any more. -/
theorem ended_after_idle (workers : Nat) {steps : List Shift.Step} (shut : .shutdown ∈ steps)
    (idle : (after workers steps).crew.isIdle = true) (later : List Shift.Step) :
    (after workers (steps ++ later)).ended = (after workers steps).ended := by
  have hgrows := (grows_after workers steps later).ended
  have hle : (after workers (steps ++ later)).ended.length ≤
      (after workers steps).ended.length := by
    have hlater := (tracked_after workers (steps ++ later)).perm_accepted.length_eq
    have hnow := (tracked_after workers steps).perm_accepted.length_eq
    rw [accepted_after_shutdown workers steps shut, List.length_append] at hlater
    rw [Crew.isIdle_iff.mp idle, List.append_nil] at hnow
    omega
  exact (hgrows.eq_of_length_le hle).symm

/-- When all workers have ended, no task waits and none runs. -/
theorem Tracked.isIdle_of_exited (h : Tracked workers steps r) (exited : r.exited = workers) :
    r.crew.isIdle = true := by
  have hroom := h.room
  rw [exited] at hroom
  have hrunning : r.crew.running = [] := List.length_eq_zero_iff.mp (by omega)
  have hwaiting : r.crew.waiting = [] := by
    by_cases hnone : r.accepted = []
    · have hbegun := h.begun
      rw [hnone] at hbegun
      exact (List.append_eq_nil_iff.mp hbegun.symm).2
    · have hworkers := h.manned hnone
      exact (Crew.isLeaving_iff.mp (h.leaving (by omega))).2
  rw [Crew.isIdle_iff, Crew.tasks, hrunning, hwaiting]
  rfl

theorem foldl_leave (leaving : r.crew.isLeaving = true) (idle : r.crew.running = []) (n : Nat)
    (room : r.exited + n ≤ r.crew.workers) :
    (List.replicate n Shift.Step.leave).foldl step r = { r with exited := r.exited + n } := by
  induction n generalizing r with
  | zero => rfl
  | succ n ih =>
    have hfree : r.crew.running.length + r.exited < r.crew.workers := by
      rw [idle, List.length_nil]
      omega
    have hleave : r.step .leave = { r with exited := r.exited + 1 } := if_pos ⟨leaving, hfree⟩
    rw [List.replicate_succ, List.foldl_cons, hleave,
      ih (r := { r with exited := r.exited + 1 }) leaving idle (by simp only; omega)]
    simp only [ShiftRun.mk.injEq, true_and]
    omega

/-- Once a crew is closed and has nothing left to do, its workers can all end. -/
theorem Tracked.exists_leaves (h : Tracked workers steps r) (shut : .shutdown ∈ steps)
    (idle : r.crew.isIdle = true) : ∃ leaves : List Shift.Step, (∀ s ∈ leaves, s = .leave) ∧
      (leaves.foldl step r).exited = workers := by
  have hnone := Crew.isIdle_iff.mp idle
  rw [Crew.tasks, List.append_eq_nil_iff] at hnone
  have hleaving := Crew.isLeaving_iff.mpr ⟨h.isOpen_eq_false shut, hnone.2⟩
  have hroom := h.room
  refine ⟨List.replicate (workers - r.exited) .leave, fun s => List.eq_of_mem_replicate, ?_⟩
  rw [foldl_leave hleaving hnone.1 _ (by rw [h.staff]; omega)]
  simp only
  omega

/-- A shutdown is called after some steps, and its time is over after some more. It reports that
the workers have ended just if it was not the first, or if all of them have ended. If it was the
first and reports so, each task that was accepted has ended, once, and no task ends later. And once
each of them has ended, the workers can end too, so that the report is given if its time allows. -/
theorem shutdownReport_eq_true_iff (workers : Nat) (earlier during : List Shift.Step) :
    let called := after workers earlier
    let whenOver := after workers (earlier ++ .shutdown :: during)
    whenOver.accepted = called.accepted ∧
    (called.crew.shutdownReport whenOver.exited = true ↔
      .shutdown ∈ earlier ∨ whenOver.exited = workers) ∧
    (called.crew.shutdownReport whenOver.exited = true → .shutdown ∉ earlier →
      (∀ slip ∈ called.accepted, slip ∈ whenOver.ended) ∧
      whenOver.ended.Perm called.accepted ∧ ∀ later,
        (after workers (earlier ++ .shutdown :: during ++ later)).ended = whenOver.ended) ∧
    ((∀ slip ∈ called.accepted, slip ∈ whenOver.ended) →
      ∃ leaves : List Shift.Step, (∀ s ∈ leaves, s = .leave) ∧
        called.crew.shutdownReport
          (after workers (earlier ++ .shutdown :: during ++ leaves)).exited = true) := by
  intro called whenOver
  have tracked := tracked_after workers (earlier ++ .shutdown :: during)
  have shut : .shutdown ∈ earlier ++ .shutdown :: during := by simp
  have hsame : whenOver.accepted = called.accepted := by
    have hstep : (after workers (earlier ++ [.shutdown])).accepted = called.accepted := by
      rw [after_concat]
      rfl
    have hduring :=
      accepted_after_shutdown workers (earlier ++ [.shutdown]) (by simp) during
    rw [List.append_assoc, List.singleton_append] at hduring
    exact hduring.trans hstep
  have hopen : called.crew.isOpen = false ↔ .shutdown ∈ earlier := by
    rw [Bool.eq_false_iff, ne_eq, (tracked_after workers earlier).isOpen, not_not]
  have hreport (notices : Nat) : called.crew.shutdownReport notices = true ↔
      .shutdown ∈ earlier ∨ workers ≤ notices := by
    rw [Crew.shutdownReport, Bool.or_eq_true, Bool.not_eq_true', hopen, decide_eq_true_eq,
      (tracked_after workers earlier).staff]
  have hexited : whenOver.exited ≤ workers := Nat.le_trans (Nat.le_add_left ..) tracked.room
  refine ⟨hsame, ?_, ?_, ?_⟩
  · rw [hreport]
    exact or_congr_right ⟨Nat.le_antisymm hexited, Nat.le_of_eq ∘ Eq.symm⟩
  · intro report first
    have hall := ((hreport _).mp report).resolve_left first
    have hidle := tracked.isIdle_of_exited (Nat.le_antisymm hexited hall)
    have hended := tracked.isIdle_iff.mp hidle
    rw [hsame] at hended
    have hperm := tracked.perm_accepted
    rw [Crew.isIdle_iff.mp hidle, List.append_nil, hsame] at hperm
    exact ⟨hended, hperm.symm, ended_after_idle workers shut hidle⟩
  · intro ended
    have hidle : whenOver.crew.isIdle = true := tracked.isIdle_iff.mpr (hsame ▸ ended)
    obtain ⟨leaves, hleaves, hall⟩ := tracked.exists_leaves shut hidle
    refine ⟨leaves, hleaves, (hreport _).mpr (.inr ?_)⟩
    rw [after_append, hall]

/-- Of two shutdowns while a task is held at its gate, the second reports that the workers have
ended. -/
theorem second_shutdownReport_of_held_task :
    let steps : List Shift.Step := [.execute (.waitThenWrite "b"), .start, .shutdown]
    let called := after 1 steps
    let whenOver := after 1 (steps ++ [.shutdown])
    called.crew.shutdownReport whenOver.exited = true ∧
      ¬∀ slip ∈ called.accepted, slip ∈ whenOver.ended := by
  decide

end ShiftRun

end CallWatch
