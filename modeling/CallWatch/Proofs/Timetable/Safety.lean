import CallWatch.Proofs.Timetable.Run

/-! What a timetable never does. No job has two runs at once, a job that was cancelled is dispatched
no more while all other jobs go on as if it had not been, a run that panics leaves its job where it
is, and once the timetable is shut down it dispatches nothing and refuses every job. -/

namespace CallWatch

namespace TimetableRun

variable {τ : Type} {r r' : TimetableRun τ}

/-- What every step of a governed run keeps holds from then on. -/
theorem kept_after {P : TimetableRun τ → Prop}
    (keep : ∀ {r r' s}, Move r s r' → Governed r → P r → P r') {steps : List (Timetable.Step τ)}
    (now : P (after steps)) (later : List (Timetable.Step τ)) : P (after (steps ++ later)) := by
  induction later using List.reverseRecOn with
  | nil => rwa [List.append_nil]
  | append_singleton later s ih =>
    rw [← List.append_assoc, after_concat]
    exact keep (move_step _ s) (governed_after _) ih

theorem Move.mem_obeyed {s : Timetable.Step τ} (move : Move r s r') {command : Command τ}
    (mem : command ∈ r.obeyed) : command ∈ r'.obeyed := by
  cases move with
  | obey next rest oldest now => exact List.mem_append_left _ mem
  | _ => exact mem

theorem Move.joined_mono {s : Timetable.Step τ} (move : Move r s r') (joined : r.joined = true) :
    r'.joined = true := by
  cases move with
  | join closed => rfl
  | _ => exact joined

/-- While a timetable is open, the jobs that its loop has registered and not cancelled have a slot.
-/
def Installed (r : TimetableRun τ) : Prop :=
  r.timetable.isOpen = true → ∀ job, .register job ∈ r.obeyed → .cancel job.id ∉ r.obeyed →
    ∃ slot ∈ r.timetable.slots, slot.job = job

theorem Move.installed {s : Timetable.Step τ} (move : Move r s r') (h : Installed r) :
    Installed r' := by
  intro isOpen job registered kept
  cases move with
  | obey command rest oldest now =>
    have hkept : .cancel job.id ∉ r.obeyed := fun hmem => kept (List.mem_append_left _ hmem)
    cases command with
    | register other =>
      rcases List.mem_append.mp registered with registered | registered
      · obtain ⟨slot, hslot, hjob⟩ := h isOpen job registered hkept
        exact ⟨slot, List.mem_append_left _ hslot, hjob⟩
      · obtain rfl : job = other := by simpa using registered
        exact ⟨_, List.mem_append_right _ List.mem_cons_self, rfl⟩
    | cancel id =>
      have registered : .register job ∈ r.obeyed := by simpa using registered
      obtain ⟨slot, hslot, rfl⟩ := h isOpen job registered hkept
      have hother : slot.job.id ≠ id := by
        rintro rfl
        exact kept (List.mem_append_right _ List.mem_cons_self)
      exact ⟨slot, List.mem_filter.mpr ⟨hslot, by simpa using hother⟩, rfl⟩
    | shutdown => cases isOpen
  | dispatch slot now ready =>
    obtain ⟨other, hother, rfl⟩ := h isOpen job registered kept
    exact ⟨_, List.mem_map_of_mem hother, Slot.job_advancedFor ..⟩
  | _ => exact h isOpen job registered kept

/-- A run is dispatched only of a job that is registered and not cancelled. -/
theorem Move.exists_dispatched {s : Timetable.Step τ} (move : Move r s r') (h : Governed r) :
    ∃ new, r'.dispatched = r.dispatched ++ new ∧ ∀ run ∈ new, .cancel run.1 ∉ r.obeyed ∧
      ∃ job, .register job ∈ r.obeyed ∧ run = (job.id, job.task) := by
  cases move with
  | dispatch slot now ready =>
    have hslot := (Timetable.ready?_eq_some ready).mem
    refine ⟨_, rfl, fun run hrun => ?_⟩
    obtain rfl := List.mem_singleton.mp hrun
    exact ⟨h.kept slot hslot, slot.job, h.registered slot hslot, rfl⟩
  | _ => exact ⟨[], (List.append_nil _).symm, by simp⟩

/-- The runs of a job that were dispatched. -/
def runsOf (r : TimetableRun τ) (id : Nat) : List (Nat × τ) :=
  r.dispatched.filter fun run => run.1 = id

theorem Move.runsOf_of_cancelled {s : Timetable.Step τ} (move : Move r s r') (h : Governed r)
    {id : Nat} (cancelled : .cancel id ∈ r.obeyed) : r'.runsOf id = r.runsOf id := by
  cases move with
  | dispatch slot now ready =>
    have hother : slot.job.id ≠ id := by
      rintro rfl
      exact h.kept slot (Timetable.ready?_eq_some ready).mem cancelled
    simp [runsOf, hother]
  | _ => rfl

theorem runsOf_after_cancel {steps : List (Timetable.Step τ)} {id : Nat}
    (cancelled : .cancel id ∈ (after steps).obeyed) (later : List (Timetable.Step τ)) :
    (after (steps ++ later)).runsOf id = (after steps).runsOf id :=
  (kept_after (P := fun r => .cancel id ∈ r.obeyed ∧ r.runsOf id = (after steps).runsOf id)
    (fun move h kept =>
      ⟨move.mem_obeyed kept.1, (move.runsOf_of_cancelled h kept.1).trans kept.2⟩)
    ⟨cancelled, rfl⟩ later).2

theorem Move.dispatched_of_shutdown {s : Timetable.Step τ} (move : Move r s r') (h : Governed r)
    (shut : .shutdown ∈ r.obeyed) : r'.dispatched = r.dispatched := by
  cases move with
  | dispatch slot now ready =>
    have hmem := (Timetable.ready?_eq_some ready).mem
    rw [(h.closed (h.shutdown shut)).2] at hmem
    exact absurd hmem List.not_mem_nil
  | _ => rfl

theorem dispatched_after_shutdown {steps : List (Timetable.Step τ)}
    (shut : .shutdown ∈ (after steps).obeyed) (later : List (Timetable.Step τ)) :
    (after (steps ++ later)).dispatched = (after steps).dispatched :=
  (kept_after (P := fun r => .shutdown ∈ r.obeyed ∧ r.dispatched = (after steps).dispatched)
    (fun move h kept =>
      ⟨move.mem_obeyed kept.1, (move.dispatched_of_shutdown h kept.1).trans kept.2⟩)
    ⟨shut, rfl⟩ later).2

theorem every_after_join {steps : List (Timetable.Step τ)} (joined : (after steps).joined = true)
    (later : List (Timetable.Step τ)) (delay period : Nat) (task : τ) :
    ((after (steps ++ later)).timetable.every delay period task).1 = .error .closed := by
  have hjoined := kept_after (fun move _ => move.joined_mono) joined later
  have hclosed := (governed_after (steps ++ later)).joined hjoined
  simp [Timetable.every, hclosed]

/-- A run as it is for all jobs but one. Commands that wait for the loop are left as they are. -/
def others (id : Nat) (r : TimetableRun τ) : TimetableRun τ :=
  { r with
    timetable := { r.timetable with
      slots := r.timetable.slots.filter (·.job.id ≠ id)
      running := r.timetable.running.filter (· ≠ id) }
    pending := r.pending.filter (· ≠ id)
    active := r.active.filter (· ≠ id)
    dispatched := r.dispatched.filter (·.1 ≠ id)
    obeyed := r.obeyed.filter (·.id? ≠ some id) }

theorem others_others (id : Nat) (r : TimetableRun τ) :
    (r.others id).others id = r.others id := by
  simp [others, List.filter_filter]

theorem filter_advancedFor (id other now : Nat) (slots : List (Slot τ)) :
    (slots.map (Slot.advancedFor other now)).filter (·.job.id ≠ id) =
      (slots.filter (·.job.id ≠ id)).map (Slot.advancedFor other now) := by
  rw [List.filter_map]
  simp only [Function.comp_def, Slot.job_advancedFor]

section Own

variable (id : Nat) (r : TimetableRun τ)

/-- What a job does itself is nothing to the others. -/
theorem others_tick_self (now : Nat) : (r.tick id now).others id = r.others id := by
  rw [tick, Timetable.tick_eq]
  cases r.timetable.ready? id now with
  | none => rfl
  | some slot =>
    have hslots : (r.timetable.slots.map (Slot.advancedFor id now)).filter (·.job.id ≠ id) =
        r.timetable.slots.filter (·.job.id ≠ id) := by
      rw [filter_advancedFor]
      refine (List.map_congr_left fun slot hslot => ?_).trans (List.map_id _)
      exact Slot.advancedFor_of_ne (by simpa using (List.mem_filter.mp hslot).2) now
    simpa [others] using hslots

theorem others_start_self : (r.start id).others id = r.others id := by
  rw [start]
  split
  · simp [others, ← List.erase_filter]
  · rfl

theorem others_finish_self (ending : Ending) : (r.finish id ending).others id = r.others id := by
  rw [finish_eq]
  split
  · simp [others, Timetable.freed, ← List.erase_filter]
  · rfl

end Own

section Apart

variable {id other : Nat} (apart : other ≠ id) (r : TimetableRun τ)

include apart

theorem ready?_others (now : Nat) :
    (r.others id).timetable.ready? other now = r.timetable.ready? other now := by
  have hready (slot : Slot τ) : (slot.job.id ≠ id ∧ slot.job.id = other ∧
      slot.isReady (r.timetable.running.filter (· ≠ id)) now) ↔
      (slot.job.id = other ∧ slot.isReady r.timetable.running now) := by
    constructor
    · rintro ⟨-, rfl, ready⟩
      exact ⟨rfl, by simpa [Slot.isReady, apart] using ready⟩
    · rintro ⟨rfl, ready⟩
      exact ⟨apart, rfl, by simpa [Slot.isReady, apart] using ready⟩
  rw [Timetable.ready?, Timetable.ready?, others, List.find?_filter]
  congr 1
  funext slot
  rw [decide_eq_decide, decide_eq_true_eq, decide_eq_true_eq]
  exact hready slot

theorem tick_others (now : Nat) : (r.others id).tick other now = (r.tick other now).others id := by
  rw [tick, Timetable.tick_eq, ready?_others apart, tick, Timetable.tick_eq]
  cases r.timetable.ready? other now with
  | none => rfl
  | some slot =>
    have hslots := filter_advancedFor id other now r.timetable.slots
    simpa [others, apart] using hslots.symm

theorem start_others : (r.others id).start other = (r.start other).others id := by
  by_cases pending : other ∈ r.pending <;>
    simp [start, others, pending, apart, List.erase_filter]

theorem finish_others (ending : Ending) :
    (r.others id).finish other ending = (r.finish other ending).others id := by
  by_cases active : other ∈ r.active <;>
    simp [finish_eq, others, Timetable.freed, active, apart, List.erase_filter]

end Apart

theorem handle_others (id now : Nat) (r : TimetableRun τ) :
    ((r.others id).handle now).others id = (r.handle now).others id := by
  cases hcommands : r.timetable.commands with
  | nil => simp [handle, others, Timetable.handle, hcommands, List.filter_filter]
  | cons command rest =>
    cases command with
    | cancel other =>
      have hslots : ((r.timetable.slots.filter (·.job.id ≠ id)).filter (·.job.id ≠ other)).filter
          (·.job.id ≠ id) =
          (r.timetable.slots.filter (·.job.id ≠ other)).filter (·.job.id ≠ id) := by
        rw [List.filter_filter, List.filter_filter, List.filter_filter]
        exact List.filter_congr fun slot _ => by
          cases decide (slot.job.id ≠ id) <;> simp
      simpa [handle, others, Timetable.handle, Timetable.obey, hcommands, List.filter_filter]
        using hslots
    | _ => simp [handle, others, Timetable.handle, Timetable.obey, hcommands, List.filter_filter]

/-- What the others do does not depend on a job. -/
theorem others_step (id : Nat) (r : TimetableRun τ) (s : Timetable.Step τ) :
    ((r.others id).step s).others id = (r.step s).others id := by
  -- A step of the job itself is nothing to the others, and one of another job goes the same way
  -- without it.
  cases s with
  | every delay period task =>
    cases hopen : r.timetable.isOpen <;>
      simp [step, others, Timetable.every, Timetable.send, hopen, List.filter_filter]
  | cancel other =>
    by_cases issued : other < r.timetable.nextId <;> cases hopen : r.timetable.isOpen <;>
      simp [step, cancel, others, Timetable.cancel, Timetable.send, issued, hopen,
        List.filter_filter]
  | shutdown =>
    cases hopen : r.timetable.isOpen <;>
      simp [step, others, Timetable.shutdown, Timetable.send, hopen, List.filter_filter]
  | handle now => exact handle_others id now r
  | tick other now =>
    by_cases apart : other = id
    · subst apart
      simp only [step, others_tick_self, others_others]
    · simp only [step, tick_others apart, others_others]
  | start other =>
    by_cases apart : other = id
    · subst apart
      simp only [step, others_start_self, others_others]
    · simp only [step, start_others apart, others_others]
  | finish other ending =>
    by_cases apart : other = id
    · subst apart
      simp only [step, others_finish_self, others_others]
    · simp only [step, finish_others apart, others_others]
  | join =>
    cases hopen : r.timetable.isOpen <;> simp [step, join, others, hopen, List.filter_filter]

/-- Two runs that are the same for all jobs but one stay so, whatever comes. -/
theorem foldl_others {id : Nat} (same : r.others id = r'.others id)
    (later : List (Timetable.Step τ)) :
    (later.foldl step r).others id = (later.foldl step r').others id := by
  induction later generalizing r r' with
  | nil => exact same
  | cons s later ih =>
    refine ih ?_
    rw [← others_step, same, others_step]

theorem others_handle_cancel {id : Nat} {rest : List (Command τ)}
    (oldest : r.timetable.commands = .cancel id :: rest) (now : Nat) :
    (r.handle now).others id =
      TimetableRun.others id
        { r with timetable := { r.timetable with commands := rest } } := by
  simp [handle, others, Timetable.handle, Timetable.obey, oldest, Command.id?]

/-- A registered job that is due and has no run dispatches one. -/
theorem Governed.ready?_eq (h : Governed r) {id now : Nat} {slot : Slot τ}
    (ready : r.timetable.Ready id now slot) : r.timetable.ready? id now = some slot := by
  cases hready : r.timetable.ready? id now with
  | none =>
    have hslot := List.find?_eq_none.mp hready slot ready.mem
    simp [Slot.isReady, ready.job, ready.period, ready.due, ready.free] at hslot
  | some other =>
    have hother := Timetable.ready?_eq_some hready
    congr 1
    exact List.inj_on_of_nodup_map h.unique hother.mem ready.mem
      (hother.job.trans ready.job.symm)

/-- When the run of a job ends, in a panic or not, the job can have its next one. -/
theorem dispatched_after_finish (h : Governed r) (p : Placed r) {slot : Slot τ}
    (mem : slot ∈ r.timetable.slots) (active : slot.job.id ∈ r.active)
    (period : slot.job.period ≠ 0) {now : Nat} (due : slot.due ≤ now) (ending : Ending) :
    ((r.finish slot.job.id ending).tick slot.job.id now).dispatched =
      r.dispatched ++ [(slot.job.id, slot.job.task)] := by
  have hfinish : r.finish slot.job.id ending = { r with
      timetable := r.timetable.freed slot.job.id
      active := r.active.erase slot.job.id } := by rw [finish_eq, if_pos active]
  have hgoverned := (move_step r (.finish slot.job.id ending)).governed h
  rw [step, hfinish] at hgoverned
  have hfree : slot.job.id ∉ r.timetable.running.erase slot.job.id :=
    fun hmem => (p.single.mem_erase_iff.mp hmem).1 rfl
  rw [hfinish, tick, Timetable.tick_eq, hgoverned.ready?_eq ⟨mem, rfl, period, due, hfree⟩]

/-- No job has two runs that were dispatched and have not ended, and so no two that are active. Once
the loop has handled that a job is cancelled, no run of it is dispatched any more, while for all
other jobs it is as if the loop had passed over the command, whatever comes. The end of a run, in a
panic or not, leaves its job registered, and the job dispatches its next run when that is due. Once
the loop has handled the shutdown, nothing is dispatched, and once the shutdown that waits for the
loop has returned, every job that is asked for is refused. -/
theorem runs_safe (steps : List (Timetable.Step τ)) :
    let r := after steps
    (r.pending ++ r.active).Nodup ∧
    (∀ id, .cancel id ∈ r.obeyed → ∀ later,
      (after (steps ++ later)).runsOf id = r.runsOf id) ∧
    (∀ id rest now, r.timetable.commands = .cancel id :: rest →
      ∀ later : List (Timetable.Step τ), (later.foldl step (r.step (.handle now))).others id =
        (later.foldl step
          { r with timetable := { r.timetable with commands := rest } }).others id) ∧
    (∀ slot ∈ r.timetable.slots, slot.job.id ∈ r.active → ∀ ending,
      let r' := r.step (.finish slot.job.id ending)
      slot ∈ r'.timetable.slots ∧
        (slot.job.period ≠ 0 → ∀ now, slot.due ≤ now →
          (r'.step (.tick slot.job.id now)).dispatched =
            r.dispatched ++ [(slot.job.id, slot.job.task)])) ∧
    (.shutdown ∈ r.obeyed → ∀ later, (after (steps ++ later)).dispatched = r.dispatched) ∧
    (r.joined = true → ∀ later delay period task,
      ((after (steps ++ later)).timetable.every delay period task).1 = .error .closed) := by
  intro r
  have h := governed_after steps
  have p := placed_after steps
  refine ⟨p.running.nodup_iff.mp p.single, fun id => runsOf_after_cancel, ?_, ?_,
    dispatched_after_shutdown, every_after_join⟩
  · intro id rest now oldest
    exact foldl_others (others_handle_cancel oldest now)
  · intro slot mem active ending
    have hslots : (r.finish slot.job.id ending).timetable.slots = r.timetable.slots := by
      rw [finish_eq, if_pos active]
      rfl
    refine ⟨hslots ▸ mem, fun period now due => ?_⟩
    exact dispatched_after_finish h p mem active period due ending

/-- Two jobs have a run each. The run of the first panics, and the job goes on; the second job is
cancelled and has no other run. If the timetable is shut down instead, neither goes on, and a third
job is refused. -/
theorem runs_safe_of_panicked_run :
    let steps := [.every 0 10 "a", .every 0 10 "b", .handle 0, .handle 0, .tick 1 0, .tick 2 0,
      .start 1, .start 2, .cancel 2]
    let cancelled := steps ++ [.handle 5]
    let shut := cancelled ++ [.shutdown, .handle 6, .join]
    let later := [.finish 1 .panicked, .finish 2 .returned, .tick 2 10, .tick 1 10]
    let slot : Slot String := ⟨⟨1, "a", 0, 10⟩, 10⟩
    ((after steps).pending ++ (after steps).active).Nodup ∧ (after steps).active = [1, 2] ∧
      slot ∈ (after steps).timetable.slots ∧
      (((after steps).step (.finish 1 .panicked)).step (.tick 1 10)).dispatched =
        [(1, "a"), (2, "b"), (1, "a")] ∧
      (after steps).timetable.commands = [.cancel 2] ∧
      ((after (cancelled ++ later)).others 2).dispatched = [(1, "a"), (1, "a")] ∧
      .cancel 2 ∈ (after cancelled).obeyed ∧ (after (cancelled ++ later)).runsOf 2 = [(2, "b")] ∧
      .shutdown ∈ (after shut).obeyed ∧
      (after (shut ++ later)).dispatched = [(1, "a"), (2, "b")] ∧
      (after shut).joined = true ∧
      ((after (shut ++ later)).timetable.every 0 10 "c").1 = .error .closed := by
  intro steps cancelled shut later slot
  have active : (after steps).active = [1, 2] := by decide
  have mem : slot ∈ (after steps).timetable.slots := by decide
  have oldest : (after steps).timetable.commands = [.cancel 2] := by decide
  have obeyed : .cancel 2 ∈ (after cancelled).obeyed := by decide
  have closed : .shutdown ∈ (after shut).obeyed := by decide
  have joined : (after shut).joined = true := by decide
  obtain ⟨hsingle, -, hothers, hfinish, -, -⟩ := runs_safe steps
  obtain ⟨-, hruns, -, -, -, -⟩ := runs_safe cancelled
  obtain ⟨-, -, -, -, hdispatched, hrefused⟩ := runs_safe shut
  obtain ⟨-, hnext⟩ := hfinish slot mem (by rw [active]; decide) .panicked
  have hafter : after (cancelled ++ later) =
      later.foldl step ((after steps).step (.handle 5)) := by
    rw [after_append, after_concat]
  refine ⟨hsingle, active, mem, ?_, oldest, ?_, obeyed, ?_, closed, ?_, joined,
    hrefused joined later 0 10 "c"⟩
  · exact (hnext (by decide) 10 (Nat.le_refl 10)).trans (by decide)
  · rw [hafter, hothers 2 [] 5 oldest later]
    decide
  · exact (hruns 2 obeyed later).trans (by decide)
  · exact (hdispatched closed later).trans (by decide)

end TimetableRun

end CallWatch
