import CallWatch.Proofs.Timetable.Run
import CallWatch.Rounds

/-! Rounds are runs of a timetable in which the loop handles what is asked of it at once, and in
which each run that is due starts and ends before the clock moves on. What holds of the timetable in
every order of steps holds of rounds. -/

namespace CallWatch

namespace Timetable

variable {τ : Type}

/-- If each slot is passed over or chosen, the last choice is the first one or a slot. -/
theorem eq_or_mem_of_foldl {choose : Option (Slot τ) → Slot τ → Option (Slot τ)}
    (chooses : ∀ best next, choose best next = best ∨ choose best next = some next)
    {slots : List (Slot τ)} {best : Option (Slot τ)} {slot : Slot τ}
    (h : slots.foldl choose best = some slot) : best = some slot ∨ slot ∈ slots := by
  induction slots generalizing best with
  | nil => exact .inl h
  | cons next slots ih =>
    rcases ih h with hbest | hmem
    · rcases chooses best next with passed | chosen
      · exact .inl (passed.symm.trans hbest)
      · obtain rfl := Option.some.inj (chosen.symm.trans hbest)
        exact .inr List.mem_cons_self
    · exact .inr (List.mem_cons_of_mem _ hmem)

/-- The job that is due first is registered, and can have a run. -/
theorem first?_eq_some {t : Timetable τ} {horizon : Nat} {slot : Slot τ}
    (h : t.first? horizon = some slot) :
    slot ∈ t.slots ∧ slot.isReady t.running horizon = true := by
  have hchosen := eq_or_mem_of_foldl (fun best next => by
    cases best with
    | none => exact .inr rfl
    | some best =>
      by_cases sooner : next.due < best.due
      · exact .inr (if_pos sooner)
      · exact .inl (if_neg sooner)) h
  exact List.mem_filter.mp (hchosen.resolve_left (by simp))

end Timetable

/-- Rounds with the timetable of a run, in which the same jobs have run, and none runs. -/
structure Rounds.Shows (rounds : Rounds) (r : TimetableRun Unit) : Prop where
  timetable : rounds.timetable = r.timetable
  runs : rounds.runs = r.dispatched.map (·.1)
  pending : r.pending = []
  active : r.active = []

namespace TimetableRun

theorem exists_steps_of_settle {τ : Type} (r : TimetableRun τ) (now : Nat) :
    ∃ steps : List (Timetable.Step τ), ∃ obeyed, steps.foldl step r =
      { r with timetable := r.timetable.settle now, obeyed := obeyed } := by
  have hfoldl (commands : List (Command τ)) (r : TimetableRun τ) :
      ∃ obeyed, (commands.map fun _ => .handle now).foldl step r =
        { r with
          timetable := commands.foldl (fun t _ => t.handle now) r.timetable
          obeyed := obeyed } := by
    induction commands generalizing r with
    | nil => exact ⟨r.obeyed, rfl⟩
    | cons command commands ih => exact ih (r.step (.handle now))
  exact ⟨_, hfoldl r.timetable.commands r⟩

/-- A run that is dispatched, starts and ends at once leaves no trace but that it was. -/
theorem exists_steps_of_tick {τ : Type} {r : TimetableRun τ} {slot : Slot τ} {horizon : Nat}
    (pending : r.pending = []) (active : r.active = [])
    (first : r.timetable.first? horizon = some slot) :
    ∃ steps : List (Timetable.Step τ), ∃ task, steps.foldl step r =
      { r with
        timetable := (r.timetable.tick slot.job.id slot.due).2.finish slot.job.id .returned
        dispatched := r.dispatched ++ [(slot.job.id, task)] } := by
  obtain ⟨hmem, hready⟩ := Timetable.first?_eq_some first
  have hdue : slot.isReady r.timetable.running slot.due = true := by
    simp only [Slot.isReady, decide_eq_true_eq] at hready ⊢
    exact ⟨hready.1, Nat.le_refl _, hready.2.2⟩
  obtain ⟨other, hother⟩ : ∃ other, r.timetable.ready? slot.job.id slot.due = some other := by
    rw [← Option.isSome_iff_exists, Timetable.ready?, List.find?_isSome]
    exact ⟨slot, hmem, by simp [hdue]⟩
  refine ⟨[.tick slot.job.id slot.due, .start slot.job.id, .finish slot.job.id .returned],
    other.job.task, ?_⟩
  simp [step, tick, Timetable.tick_eq, hother, start, finish, pending, active]

end TimetableRun

namespace Rounds

open TimetableRun

variable {rounds : Rounds} {r : TimetableRun Unit}

theorem exists_steps_of_runsWithin (horizon count : Nat) (r : TimetableRun Unit)
    (pending : r.pending = []) (active : r.active = []) :
    ∃ steps : List (Timetable.Step Unit), ∃ dispatched, steps.foldl step r =
        { r with
          timetable := (r.timetable.runsWithin horizon count).2, dispatched := dispatched } ∧
      dispatched.map (·.1) =
        r.dispatched.map (·.1) ++ (r.timetable.runsWithin horizon count).1.map (·.1) := by
  induction count generalizing r with
  | zero => exact ⟨[], r.dispatched, rfl, by simp [Timetable.runsWithin]⟩
  | succ count ih =>
    rw [Timetable.runsWithin]
    split
    · exact ⟨[], r.dispatched, rfl, by simp⟩
    · next slot first =>
      obtain ⟨ticking, task, hstep⟩ := exists_steps_of_tick pending active first
      obtain ⟨steps, dispatched, hsteps, hruns⟩ :=
        ih { r with
          timetable := (r.timetable.tick slot.job.id slot.due).2.finish slot.job.id .returned
          dispatched := r.dispatched ++ [(slot.job.id, task)] } pending active
      refine ⟨ticking ++ steps, dispatched, ?_, ?_⟩
      · rw [List.foldl_append, hstep, hsteps]
      · rw [hruns]
        simp

/-- When the clock of rounds moves on, what happens is a run of the timetable. -/
theorem Shows.advance (h : rounds.Shows r) (millis : Nat) :
    ∃ steps : List (Timetable.Step Unit), (rounds.advance millis).Shows (steps.foldl step r) := by
  obtain ⟨settling, obeyed, hsettle⟩ := r.exists_steps_of_settle rounds.now
  obtain ⟨running, dispatched, hrun, hruns⟩ := exists_steps_of_runsWithin (rounds.now + millis) _
    { r with timetable := r.timetable.settle rounds.now, obeyed := obeyed } h.pending h.active
  refine ⟨settling ++ running, ?_⟩
  rw [List.foldl_append, hsettle, hrun]
  refine ⟨?_, ?_, h.pending, h.active⟩
  · rw [Rounds.advance, h.timetable]
    rfl
  · rw [hruns, Rounds.advance, h.timetable, h.runs]
    rfl

/-- What callers do with rounds: they ask for a job, cancel one, shut down, or let time pass. -/
inductive Call
  | every (delay period : Nat)
  | cancel (id : Nat)
  | shutdown
  | advance (millis : Nat)

/-- A job can be cancelled only once it has an id. -/
def obey (rounds : Rounds) : Call → Rounds
  | .every delay period => (rounds.every delay period).2
  | .cancel id => if id < rounds.timetable.nextId then rounds.cancel id else rounds
  | .shutdown => rounds.shutdown
  | .advance millis => rounds.advance millis

theorem Shows.obey (h : rounds.Shows r) (call : Call) :
    ∃ steps : List (Timetable.Step Unit), (rounds.obey call).Shows (steps.foldl step r) := by
  have hcall (s : Timetable.Step Unit) (timetable : Timetable Unit)
      (hs : r.step s = { r with timetable := timetable }) : ∃ steps : List (Timetable.Step Unit),
      ({ rounds with timetable := timetable }.advance 0).Shows (steps.foldl step r) := by
    have hshows : Shows { rounds with timetable := timetable } (r.step s) :=
      hs ▸ ⟨rfl, h.runs, h.pending, h.active⟩
    obtain ⟨steps, hsteps⟩ := hshows.advance 0
    exact ⟨s :: steps, hsteps⟩
  cases call with
  | every delay period =>
    refine hcall (.every delay period ()) _ ?_
    rw [h.timetable]
    rfl
  | cancel id =>
    rw [Rounds.obey]
    split
    · next issued =>
      refine hcall (.cancel id) _ ?_
      rw [step, TimetableRun.cancel, ← h.timetable, if_pos issued]
    · exact ⟨[], h⟩
  | shutdown =>
    refine hcall .shutdown _ ?_
    rw [h.timetable]
    rfl
  | advance millis => exact h.advance millis

/-- Whatever callers do with rounds, they are a run of a timetable. -/
theorem exists_run_of_calls (calls : List Call) :
    ∃ steps : List (Timetable.Step Unit), (calls.foldl obey start).Shows (after steps) := by
  induction calls using List.reverseRecOn with
  | nil => exact ⟨[], rfl, rfl, rfl, rfl⟩
  | append_singleton calls call ih =>
    obtain ⟨steps, hshows⟩ := ih
    obtain ⟨more, hmore⟩ := hshows.obey call
    refine ⟨steps ++ more, ?_⟩
    rw [List.foldl_append, after_append]
    exact hmore

end Rounds

end CallWatch
