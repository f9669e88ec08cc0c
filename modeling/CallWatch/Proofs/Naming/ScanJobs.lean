import CallWatch.Dispatch.Chore
import CallWatch.Proofs.Timetable.Safety

/-! The jobs of scans among the commands to a timetable. A job stands from the command that
registers it to the one that cancels it, whether the loop has handled these or not. -/

namespace CallWatch

namespace Command

/-- The job that a command registers, if it is one of scans. -/
def scanJob? : Command Chore → Option Nat
  | register job => if job.task = .scan then some job.id else none
  | _ => none

/-- The scan jobs among the commands to a timetable. -/
def scanJobs (asked : List (Command Chore)) : List Nat :=
  asked.filterMap scanJob?

/-- The scan jobs that are not cancelled. -/
def standing (asked : List (Command Chore)) : List Nat :=
  (scanJobs asked).filter fun id => cancel id ∉ asked

variable {asked : List (Command Chore)}

theorem scanJob?_eq_some {command : Command Chore} {id : Nat} :
    command.scanJob? = some id ↔
      ∃ job, command = .register job ∧ job.task = .scan ∧ job.id = id := by
  cases command <;> simp [scanJob?]

theorem mem_scanJobs {id : Nat} :
    id ∈ scanJobs asked ↔ ∃ job, .register job ∈ asked ∧ job.task = .scan ∧ job.id = id := by
  rw [scanJobs, List.mem_filterMap]
  constructor
  · rintro ⟨command, hmem, hjob⟩
    obtain ⟨job, rfl, htask, hid⟩ := scanJob?_eq_some.mp hjob
    exact ⟨job, hmem, htask, hid⟩
  · rintro ⟨job, hmem, htask, hid⟩
    exact ⟨_, hmem, scanJob?_eq_some.mpr ⟨job, rfl, htask, hid⟩⟩

/-- No job is registered twice. -/
theorem nodup_scanJobs (h : asked.Pairwise TimetableRun.Precedes) : (scanJobs asked).Nodup := by
  rw [scanJobs, List.Nodup, List.pairwise_filterMap]
  refine h.imp fun precedes id hid other hother => ?_
  obtain ⟨earlier, rfl, -, rfl⟩ := scanJob?_eq_some.mp hid
  obtain ⟨later, rfl, -, rfl⟩ := scanJob?_eq_some.mp hother
  exact fun hsame => precedes later rfl (congrArg some hsame)

theorem standing_append_register {job : Job Chore} (scan : job.task = .scan)
    (new : ∀ command ∈ asked, command.id? ≠ some job.id) :
    standing (asked ++ [.register job]) = standing asked ++ [job.id] := by
  have hnew : (cancel job.id : Command Chore) ∉ asked := fun hmem => new _ hmem rfl
  simp [standing, scanJobs, scanJob?, scan, hnew]

theorem standing_append_cancel (h : asked.Pairwise TimetableRun.Precedes) (id : Nat) :
    standing (asked ++ [.cancel id]) = (standing asked).erase id := by
  have hnodup : (standing asked).Nodup := (nodup_scanJobs h).filter _
  have hfilter : standing (asked ++ [.cancel id]) = (standing asked).filter (· ≠ id) := by
    simp [standing, scanJobs, scanJob?, List.filter_filter, and_comm]
  rw [hfilter, hnodup.erase_eq_filter]
  exact List.filter_congr fun other _ => by rw [Bool.eq_iff_iff]; simp

/-- Commands that leave the timetable open, register no scan job and cancel none. -/
def Foreign (asked commands : List (Command Chore)) : Prop :=
  ∀ command ∈ commands, command ≠ .shutdown ∧ command.scanJob? = none ∧
    ∀ id ∈ scanJobs asked, command ≠ .cancel id

theorem Foreign.scanJobs_append {commands : List (Command Chore)} (h : Foreign asked commands) :
    scanJobs (asked ++ commands) = scanJobs asked := by
  have hnone : commands.filterMap scanJob? = [] :=
    List.filterMap_eq_nil_iff.mpr fun command hmem => (h command hmem).2.1
  rw [scanJobs, List.filterMap_append, hnone, List.append_nil]
  rfl

theorem Foreign.standing_append {commands : List (Command Chore)} (h : Foreign asked commands) :
    standing (asked ++ commands) = standing asked := by
  rw [standing, h.scanJobs_append]
  refine List.filter_congr fun id hid => ?_
  have hother : (cancel id : Command Chore) ∉ commands := fun hmem => (h _ hmem).2.2 id hid rfl
  simp [hother]

end Command

end CallWatch
