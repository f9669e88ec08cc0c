import CallWatch.Timetable
import Mathlib.Data.List.Induction
import Mathlib.Data.List.Nodup
import Mathlib.Data.List.Perm.Basic

/-! Runs of a timetable in which everything may come in any order: callers ask for jobs, cancel them
and shut the timetable down, its loop handles one command after another, the clock reaches the
moments of jobs, and what is dispatched begins and ends on other threads at its own pace. The loop
and the jobs share one thread, so a job does not move while the loop handles a command: one that is
cancelled then is dropped before it can dispatch another run. -/

namespace CallWatch

/-- The job of which a command speaks. -/
def Command.id? {τ : Type} : Command τ → Option Nat
  | register job => some job.id
  | cancel id => some id
  | shutdown => none

/-- What can happen to a timetable: a job is asked for, cancelled through its handle, or all are
shut down; the loop handles a command; the clock reaches `now` for a job; a run that was dispatched
starts on its thread, or it ends there, by itself or in a panic; and the call that waits for the
timetable's thread returns. -/
inductive Timetable.Step (τ : Type)
  | every (delay period : Nat) (task : τ)
  | cancel (id : Nat)
  | shutdown
  | handle (now : Nat)
  | tick (id now : Nat)
  | start (id : Nat)
  | finish (id : Nat) (ending : Ending)
  | join

/-- A timetable, where its runs are, and what has happened to it. -/
structure TimetableRun (τ : Type) where
  timetable : Timetable τ
  /-- The jobs with a run that was dispatched and has not started. -/
  pending : List Nat
  /-- The jobs with a run that has started and not ended. -/
  active : List Nat
  /-- All runs that were dispatched, each with its job and its task. -/
  dispatched : List (Nat × τ)
  /-- The commands that the loop has handled. -/
  obeyed : List (Command τ)
  /-- Whether the shutdown that waits for the timetable's thread has returned. -/
  joined : Bool

namespace Slot

variable {τ : Type}

@[simp] theorem job_advanced (slot : Slot τ) (now : Nat) : (slot.advanced now).job = slot.job := by
  unfold advanced
  split <;> rfl

/-- The slot once a run of the job with some id has been dispatched. -/
def advancedFor (id now : Nat) (slot : Slot τ) : Slot τ :=
  if slot.job.id = id then slot.advanced now else slot

@[simp] theorem job_advancedFor (id now : Nat) (slot : Slot τ) :
    (slot.advancedFor id now).job = slot.job := by
  unfold advancedFor
  split
  · exact slot.job_advanced now
  · rfl

theorem advancedFor_of_ne {id : Nat} {slot : Slot τ} (h : slot.job.id ≠ id) (now : Nat) :
    slot.advancedFor id now = slot :=
  if_neg h

end Slot

namespace Timetable

variable {τ : Type}

/-- A job that may begin a run is registered and due, and has no run that has not ended. -/
structure Ready (t : Timetable τ) (id now : Nat) (slot : Slot τ) : Prop where
  mem : slot ∈ t.slots
  job : slot.job.id = id
  period : slot.job.period ≠ 0
  due : slot.due ≤ now
  free : id ∉ t.running

theorem ready?_eq_some {t : Timetable τ} {id now : Nat} {slot : Slot τ}
    (h : t.ready? id now = some slot) : t.Ready id now slot := by
  have hslot := List.find?_some h
  simp only [Slot.isReady, decide_eq_true_eq] at hslot
  obtain ⟨rfl, period, due, free⟩ := hslot
  exact ⟨List.mem_of_find?_eq_some h, rfl, period, due, free⟩

theorem tick_eq (t : Timetable τ) (id now : Nat) :
    t.tick id now = match t.ready? id now with
      | none => (none, t)
      | some slot =>
        (some slot.job.task,
          { t with running := id :: t.running, slots := t.slots.map (Slot.advancedFor id now) }) :=
  rfl

theorem running_obey (t : Timetable τ) (now : Nat) (command : Command τ) :
    (t.obey now command).running = t.running := by
  cases command <;> rfl

end Timetable

namespace TimetableRun

variable {τ : Type}

def empty : TimetableRun τ :=
  ⟨.empty, [], [], [], [], false⟩

/-- Only a job that was given an id has a handle. -/
def cancel (r : TimetableRun τ) (id : Nat) : TimetableRun τ :=
  if id < r.timetable.nextId then { r with timetable := r.timetable.cancel id } else r

def handle (r : TimetableRun τ) (now : Nat) : TimetableRun τ :=
  { r with
    timetable := r.timetable.handle now
    obeyed := r.obeyed ++ r.timetable.commands.take 1 }

def tick (r : TimetableRun τ) (id now : Nat) : TimetableRun τ :=
  match r.timetable.tick id now with
  | (some task, timetable) =>
    { r with
      timetable, pending := r.pending ++ [id], dispatched := r.dispatched ++ [(id, task)] }
  | (none, _) => r

def start (r : TimetableRun τ) (id : Nat) : TimetableRun τ :=
  if id ∈ r.pending then { r with pending := r.pending.erase id, active := r.active ++ [id] } else r

def finish (r : TimetableRun τ) (id : Nat) (ending : Ending) : TimetableRun τ :=
  if id ∈ r.active then
    { r with timetable := r.timetable.finish id ending, active := r.active.erase id }
  else r

/-- However a run ends, its job has none any more, and that is all. -/
theorem finish_eq (r : TimetableRun τ) (id : Nat) (ending : Ending) :
    r.finish id ending =
      if id ∈ r.active then
        { r with timetable := r.timetable.freed id, active := r.active.erase id }
      else r := by
  rw [finish, Timetable.finish_eq]

/-- The call that waits for the timetable's thread returns only once the loop has ended. -/
def join (r : TimetableRun τ) : TimetableRun τ :=
  if r.timetable.isOpen then r else { r with joined := true }

def step (r : TimetableRun τ) : Timetable.Step τ → TimetableRun τ
  | .every delay period task => { r with timetable := (r.timetable.every delay period task).2 }
  | .cancel id => r.cancel id
  | .shutdown => { r with timetable := r.timetable.shutdown }
  | .handle now => r.handle now
  | .tick id now => r.tick id now
  | .start id => r.start id
  | .finish id ending => r.finish id ending
  | .join => r.join

def after (steps : List (Timetable.Step τ)) : TimetableRun τ :=
  steps.foldl step empty

theorem after_concat (steps : List (Timetable.Step τ)) (s : Timetable.Step τ) :
    after (steps ++ [s]) = (after steps).step s := by
  simp [after]

theorem after_append (steps later : List (Timetable.Step τ)) :
    after (steps ++ later) = later.foldl step (after steps) :=
  List.foldl_append

/-- All commands that the loop has handled, and those that wait for it. -/
def asked (r : TimetableRun τ) : List (Command τ) :=
  r.obeyed ++ r.timetable.commands

variable {r r' : TimetableRun τ}

/-- All that a step can do to a run. -/
inductive Move (r : TimetableRun τ) : Timetable.Step τ → TimetableRun τ → Prop
  | register (delay period : Nat) (task : τ) (isOpen : r.timetable.isOpen = true) :
      Move r (.every delay period task)
        { r with
          timetable := { r.timetable with
            nextId := r.timetable.nextId + 1
            commands := r.timetable.commands ++
              [.register ⟨r.timetable.nextId, task, delay, period⟩] } }
  | refuse (delay period : Nat) (task : τ) (closed : r.timetable.isOpen = false) :
      Move r (.every delay period task)
        { r with timetable := { r.timetable with nextId := r.timetable.nextId + 1 } }
  | cancel (id : Nat) (issued : id < r.timetable.nextId) (isOpen : r.timetable.isOpen = true) :
      Move r (.cancel id)
        { r with
          timetable := { r.timetable with commands := r.timetable.commands ++ [.cancel id] } }
  | shutdown (isOpen : r.timetable.isOpen = true) :
      Move r .shutdown
        { r with
          timetable := { r.timetable with commands := r.timetable.commands ++ [.shutdown] } }
  | obey (command : Command τ) (rest : List (Command τ))
      (oldest : r.timetable.commands = command :: rest) (now : Nat) :
      Move r (.handle now)
        { r with
          timetable := { r.timetable with commands := rest }.obey now command
          obeyed := r.obeyed ++ [command] }
  | dispatch (slot : Slot τ) (now : Nat)
      (ready : r.timetable.ready? slot.job.id now = some slot) :
      Move r (.tick slot.job.id now)
        { r with
          timetable := { r.timetable with
            running := slot.job.id :: r.timetable.running
            slots := r.timetable.slots.map (Slot.advancedFor slot.job.id now) }
          pending := r.pending ++ [slot.job.id]
          dispatched := r.dispatched ++ [(slot.job.id, slot.job.task)] }
  | start (id : Nat) (pending : id ∈ r.pending) :
      Move r (.start id) { r with pending := r.pending.erase id, active := r.active ++ [id] }
  | finish (id : Nat) (ending : Ending) (active : id ∈ r.active) :
      Move r (.finish id ending)
        { r with timetable := r.timetable.freed id, active := r.active.erase id }
  | join (closed : r.timetable.isOpen = false) : Move r .join { r with joined := true }
  | idle (s : Timetable.Step τ) : Move r s r

theorem move_step (r : TimetableRun τ) (s : Timetable.Step τ) : Move r s (r.step s) := by
  cases s with
  | every delay period task =>
    cases hopen : r.timetable.isOpen with
    | true =>
      simpa [step, Timetable.every, Timetable.send, hopen]
        using Move.register delay period task hopen
    | false => simpa [step, Timetable.every, hopen] using Move.refuse delay period task hopen
  | cancel id =>
    rw [step, cancel]
    split
    · next issued =>
      cases hopen : r.timetable.isOpen with
      | true => simpa [Timetable.cancel, Timetable.send, hopen] using Move.cancel id issued hopen
      | false => simpa [Timetable.cancel, Timetable.send, hopen] using Move.idle (.cancel id)
    · exact .idle (.cancel id)
  | shutdown =>
    cases hopen : r.timetable.isOpen with
    | true => simpa [step, Timetable.shutdown, Timetable.send, hopen] using Move.shutdown hopen
    | false => simpa [step, Timetable.shutdown, Timetable.send, hopen] using Move.idle .shutdown
  | handle now =>
    cases hcommands : r.timetable.commands with
    | nil => simpa [step, handle, Timetable.handle, hcommands] using Move.idle (.handle now)
    | cons command rest =>
      simpa [step, handle, Timetable.handle, hcommands] using Move.obey command rest hcommands now
  | tick id now =>
    rw [step, tick, Timetable.tick_eq]
    cases hready : r.timetable.ready? id now with
    | none => exact .idle (.tick id now)
    | some slot =>
      obtain rfl := (Timetable.ready?_eq_some hready).job
      exact .dispatch slot now hready
  | start id =>
    rw [step, start]
    split
    · next pending => exact .start id pending
    · exact .idle (.start id)
  | finish id ending =>
    rw [step, finish_eq]
    split
    · next active => exact .finish id ending active
    · exact .idle (.finish id ending)
  | join =>
    rw [step, join]
    cases hopen : r.timetable.isOpen with
    | true => exact .idle .join
    | false => exact .join hopen

/-- The runs that were dispatched and have not ended are pending or active, no two of one job. -/
structure Placed (r : TimetableRun τ) : Prop where
  running : r.timetable.running.Perm (r.pending ++ r.active)
  single : r.timetable.running.Nodup

theorem Placed.dispatch (h : Placed r) {id : Nat} (free : id ∉ r.timetable.running) :
    (id :: r.timetable.running).Perm (r.pending ++ [id] ++ r.active) ∧
      (id :: r.timetable.running).Nodup := by
  refine ⟨?_, List.nodup_cons.mpr ⟨free, h.single⟩⟩
  rw [List.append_assoc]
  exact (h.running.cons id).trans List.perm_middle.symm

theorem Placed.start (h : Placed r) {id : Nat} (pending : id ∈ r.pending) :
    r.timetable.running.Perm (r.pending.erase id ++ (r.active ++ [id])) := by
  have hmoved := ((List.perm_cons_erase pending).append_right r.active).symm
  refine h.running.trans (hmoved.symm.trans ?_)
  rw [← List.append_assoc]
  exact (List.perm_append_singleton id _).symm

theorem Placed.finish (h : Placed r) {id : Nat} (active : id ∈ r.active) :
    (r.timetable.running.erase id).Perm (r.pending ++ r.active.erase id) := by
  have hapart := List.nodup_append.mp (h.running.nodup_iff.mp h.single)
  have hpending : id ∉ r.pending := fun pending => hapart.2.2 id pending id active rfl
  have herase := h.running.erase id
  rwa [List.erase_append_right _ hpending] at herase

theorem Move.placed {s : Timetable.Step τ} (move : Move r s r') (h : Placed r) : Placed r' := by
  cases move with
  | obey command rest oldest now =>
    have hsame := Timetable.running_obey { r.timetable with commands := rest } now command
    exact ⟨hsame ▸ h.running, hsame ▸ h.single⟩
  | dispatch slot now ready =>
    obtain ⟨hrunning, hsingle⟩ := h.dispatch (Timetable.ready?_eq_some ready).free
    exact ⟨hrunning, hsingle⟩
  | start id pending => exact ⟨h.start pending, h.single⟩
  | finish id ending active => exact ⟨h.finish active, h.single.erase id⟩
  | _ => exact ⟨h.running, h.single⟩

theorem placed_after (steps : List (Timetable.Step τ)) : Placed (after steps) := by
  induction steps using List.reverseRecOn with
  | nil => exact ⟨.refl _, List.nodup_nil⟩
  | append_singleton steps s ih =>
    rw [after_concat]
    exact (move_step _ s).placed ih

/-- Nothing is asked of a job before it is registered, and it is registered once. -/
def Precedes (earlier later : Command τ) : Prop :=
  ∀ job, later = .register job → earlier.id? ≠ some job.id

/-- What the commands of a run say of the jobs that are registered. -/
structure Governed (r : TimetableRun τ) : Prop where
  issued : ∀ command ∈ r.asked, ∀ id, command.id? = some id → id < r.timetable.nextId
  order : r.asked.Pairwise Precedes
  registered : ∀ slot ∈ r.timetable.slots, .register slot.job ∈ r.obeyed
  kept : ∀ slot ∈ r.timetable.slots, .cancel slot.job.id ∉ r.obeyed
  unique : (r.timetable.slots.map (·.job.id)).Nodup
  closed : r.timetable.isOpen = false → r.timetable.commands = [] ∧ r.timetable.slots = []
  shutdown : .shutdown ∈ r.obeyed → r.timetable.isOpen = false
  joined : r.joined = true → r.timetable.isOpen = false

/-- A command that is sent keeps the rules of those before it. -/
theorem Governed.send (h : Governed r) (command : Command τ) {nextId : Nat}
    (isOpen : r.timetable.isOpen = true) (grows : r.timetable.nextId ≤ nextId)
    (issued : ∀ id, command.id? = some id → id < nextId)
    (order : ∀ earlier ∈ r.asked, Precedes earlier command) :
    Governed { r with
      timetable := { r.timetable with
        nextId := nextId, commands := r.timetable.commands ++ [command] } } := by
  have hasked : r.obeyed ++ (r.timetable.commands ++ [command]) = r.asked ++ [command] :=
    (List.append_assoc ..).symm
  refine { h with issued := ?_, order := ?_, closed := ?_ }
  · intro earlier hmem id hid
    rw [asked, hasked] at hmem
    rcases List.mem_append.mp hmem with hmem | hmem
    · exact Nat.lt_of_lt_of_le (h.issued earlier hmem id hid) grows
    · obtain rfl := List.mem_singleton.mp hmem
      exact issued id hid
  · rw [asked, hasked, List.pairwise_append]
    refine ⟨h.order, List.pairwise_singleton .., fun earlier hmem later hlater => ?_⟩
    obtain rfl := List.mem_singleton.mp hlater
    exact order earlier hmem
  · intro closed
    exact absurd (isOpen.symm.trans closed) (by decide)

section Obey

variable {command : Command τ} {rest : List (Command τ)}

theorem asked_obey (oldest : r.timetable.commands = command :: rest) :
    r.obeyed ++ [command] ++ rest = r.asked := by
  rw [asked, oldest, List.append_assoc, List.singleton_append]

theorem Governed.precedes (h : Governed r) (oldest : r.timetable.commands = command :: rest)
    {earlier : Command τ} (hmem : earlier ∈ r.obeyed) : Precedes earlier command := by
  have horder := h.order
  rw [asked, List.pairwise_append] at horder
  exact horder.2.2 earlier hmem command (oldest ▸ List.mem_cons_self)

/-- The loop handles a command that leaves it open. -/
theorem Governed.obey (h : Governed r) (oldest : r.timetable.commands = command :: rest)
    (hopen : command ≠ .shutdown) {slots : List (Slot τ)}
    (registered : ∀ slot ∈ slots, .register slot.job ∈ r.obeyed ++ [command])
    (kept : ∀ slot ∈ slots, .cancel slot.job.id ∉ r.obeyed ++ [command])
    (unique : (slots.map (·.job.id)).Nodup) :
    Governed { r with
      timetable := { r.timetable with commands := rest, slots := slots }
      obeyed := r.obeyed ++ [command] } := by
  have hasked := asked_obey oldest
  refine { h with
    issued := ?_, order := ?_, registered := registered, kept := kept, unique := unique
    closed := ?_, shutdown := ?_ }
  · rw [asked, hasked]
    exact h.issued
  · rw [asked, hasked]
    exact h.order
  · intro closed
    have hnone := (h.closed closed).1
    rw [oldest] at hnone
    exact absurd hnone (by simp)
  · intro hmem
    rcases List.mem_append.mp hmem with hmem | hmem
    · exact h.shutdown hmem
    · exact absurd (List.mem_singleton.mp hmem).symm hopen

theorem Governed.obeyRegister (h : Governed r) {job : Job τ}
    (oldest : r.timetable.commands = .register job :: rest) (now : Nat) :
    Governed { r with
      timetable := { r.timetable with commands := rest }.obey now (.register job)
      obeyed := r.obeyed ++ [.register job] } := by
  -- No command that was handled before speaks of the job: it is not cancelled, and has no slot.
  refine h.obey oldest (by simp) ?_ ?_ ?_
  · intro slot hslot
    rcases List.mem_append.mp hslot with hslot | hslot
    · exact List.mem_append_left _ (h.registered slot hslot)
    · obtain rfl := List.mem_singleton.mp hslot
      exact List.mem_append_right _ List.mem_cons_self
  · intro slot hslot hcancel
    have hcancel : .cancel slot.job.id ∈ r.obeyed := by simpa using hcancel
    rcases List.mem_append.mp hslot with hslot | hslot
    · exact h.kept slot hslot hcancel
    · obtain rfl := List.mem_singleton.mp hslot
      exact h.precedes oldest hcancel job rfl rfl
  · rw [List.map_append, List.nodup_append]
    refine ⟨h.unique, by simp, ?_⟩
    rintro id hid other hother rfl
    obtain ⟨slot, hslot, rfl⟩ := List.mem_map.mp hid
    have hsame : slot.job.id = job.id := by simpa using hother
    exact h.precedes oldest (h.registered slot hslot) job rfl (congrArg some hsame)

theorem Governed.obeyCancel (h : Governed r) {id : Nat}
    (oldest : r.timetable.commands = .cancel id :: rest) (now : Nat) :
    Governed { r with
      timetable := { r.timetable with commands := rest }.obey now (.cancel id)
      obeyed := r.obeyed ++ [.cancel id] } := by
  refine h.obey oldest (by simp) ?_ ?_ ?_
  · intro slot hslot
    exact List.mem_append_left _ (h.registered slot (List.mem_filter.mp hslot).1)
  · intro slot hslot hcancel
    obtain ⟨hslot, hother⟩ := List.mem_filter.mp hslot
    rcases List.mem_append.mp hcancel with hcancel | hcancel
    · exact h.kept slot hslot hcancel
    · simp only [List.mem_singleton, Command.cancel.injEq] at hcancel
      simp [hcancel] at hother
  · exact h.unique.sublist (List.filter_sublist.map _)

theorem Governed.obeyShutdown (h : Governed r)
    (oldest : r.timetable.commands = .shutdown :: rest) (now : Nat) :
    Governed { r with
      timetable := { r.timetable with commands := rest }.obey now .shutdown
      obeyed := r.obeyed ++ [.shutdown] } := by
  have hsublist : (r.obeyed ++ [Command.shutdown] ++ []).Sublist r.asked := by
    rw [← asked_obey oldest]
    exact (List.nil_sublist rest).append_left _
  refine ⟨fun command hmem => h.issued command (hsublist.subset hmem),
    h.order.sublist hsublist, ?_, ?_, List.nodup_nil, fun _ => ⟨rfl, rfl⟩, fun _ => rfl,
    fun _ => rfl⟩
  · exact fun slot hslot => absurd hslot List.not_mem_nil
  · exact fun slot hslot => absurd hslot List.not_mem_nil

end Obey

/-- A run that is dispatched changes when its job is due, and no job. -/
theorem Governed.advance (h : Governed r) (id now : Nat) :
    Governed { r with
      timetable := { r.timetable with
        slots := r.timetable.slots.map (Slot.advancedFor id now) } } := by
  refine { h with registered := ?_, kept := ?_, unique := ?_, closed := ?_ }
  · intro slot hslot
    obtain ⟨e, he, rfl⟩ := List.mem_map.mp hslot
    rw [Slot.job_advancedFor]
    exact h.registered e he
  · intro slot hslot
    obtain ⟨e, he, rfl⟩ := List.mem_map.mp hslot
    rw [Slot.job_advancedFor]
    exact h.kept e he
  · rw [List.map_map]
    simp only [Function.comp_def, Slot.job_advancedFor]
    exact h.unique
  · intro closed
    obtain ⟨hcommands, hslots⟩ := h.closed closed
    exact ⟨hcommands, by simp [hslots]⟩

theorem Move.governed {s : Timetable.Step τ} (move : Move r s r') (h : Governed r) :
    Governed r' := by
  cases move with
  | register delay period task isOpen =>
    refine h.send _ isOpen (Nat.le_succ _) ?_ ?_
    · intro id hid
      obtain rfl := Option.some.inj hid
      exact Nat.lt_succ_self _
    · rintro earlier hmem job hjob hid
      cases hjob
      exact Nat.lt_irrefl _ (h.issued earlier hmem _ hid)
  | refuse delay period task closed =>
    exact { h with
      issued := fun command hmem id hid => Nat.lt_succ_of_lt (h.issued command hmem id hid) }
  | cancel id issued isOpen =>
    refine h.send _ isOpen (Nat.le_refl _) ?_ fun earlier _ job hjob => by cases hjob
    intro other hid
    obtain rfl := Option.some.inj hid
    exact issued
  | shutdown isOpen =>
    exact h.send _ isOpen (Nat.le_refl _) (fun id hid => by cases hid)
      fun earlier _ job hjob => by cases hjob
  | obey command rest oldest now =>
    cases command with
    | register job => exact h.obeyRegister oldest now
    | cancel id => exact h.obeyCancel oldest now
    | shutdown => exact h.obeyShutdown oldest now
  | dispatch slot now ready => exact { h.advance slot.job.id now with }
  | join closed => exact { h with joined := fun _ => closed }
  | _ => exact { h with }

theorem governed_after (steps : List (Timetable.Step τ)) : Governed (after steps) := by
  induction steps using List.reverseRecOn with
  | nil =>
    refine ⟨?_, .nil, ?_, ?_, List.nodup_nil, ?_, ?_, ?_⟩ <;>
      simp [after, empty, asked, Timetable.empty]
  | append_singleton steps s ih =>
    rw [after_concat]
    exact (move_step _ s).governed ih

end TimetableRun

end CallWatch
